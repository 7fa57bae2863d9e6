import ServiceBindings.Decimal.Shortest

/-! # How a number is written

A finite number is written with the **fewest digits that read back to it**. Its leading digit decides
the layout: positional notation with at least one digit after the point while the exponent of the
leading digit is at least `plainFrom` and below `plainBelow`, otherwise an exponent with a sign and
at least two digits.

`NumberNotation` records what a format decides for itself: where positional notation ends, and the
names of what is not a finite number. -/

namespace ServiceBindings

/-- The decisions of a number format. -/
structure NumberNotation where
  /-- The least exponent of the leading digit that is written positionally. -/
  plainFrom : Int
  /-- The first exponent of the leading digit that is no longer written positionally. -/
  plainBelow : Int
  /-- The name of what is not a number. -/
  undefinedName : String
  /-- The name of the positive infinity; the negative one has a minus sign in front. -/
  infinityName : String

namespace NumberNotation

/-- Positional notation of a decimal whose leading digit has the exponent `lead`. -/
def plain (digits : List Char) (lead : Int) : List Char :=
  if lead < 0 then '0' :: '.' :: List.replicate (-lead - 1).toNat '0' ++ digits
  else
    let whole := lead.toNat + 1
    let before := digits.take whole ++ List.replicate (whole - digits.length) '0'
    let after := digits.drop whole
    before ++ '.' :: (if after.isEmpty then ['0'] else after)

/-- Exponent notation of a decimal whose leading digit has the exponent `lead`. -/
def scientific (digits : List Char) (lead : Int) : List Char :=
  let after := digits.drop 1
  let power := Nat.toDigits 10 lead.natAbs
  digits.take 1 ++ (if after.isEmpty then [] else '.' :: after) ++
    'e' :: (if lead < 0 then '-' else '+') :: List.replicate (2 - power.length) '0' ++ power

/-- The text of a positive decimal. -/
def layout (format : NumberNotation) (d : Decimal) : List Char :=
  let digits := Nat.toDigits 10 d.digits
  let lead := d.exponent + digits.length - 1
  if format.plainFrom ≤ lead ∧ lead < format.plainBelow then plain digits lead
  else scientific digits lead

/-- The text of a number given by its sixty-four bits. -/
def textOfBits (format : NumberNotation) (bits : Nat) : String :=
  let fields := FloatFields.ofBits bits
  let sign := if fields.negative then "-" else ""
  if !fields.isFinite then
    if fields.fraction = 0 then sign ++ format.infinityName else format.undefinedName
  else if fields.isZero then sign ++ "0.0"
  else sign ++ String.ofList (format.layout (Binary.ofFields fields).shortest)

/-- The text of a number. -/
def text (format : NumberNotation) (x : Float) : String :=
  format.textOfBits x.toBits.toNat

end NumberNotation

end ServiceBindings
