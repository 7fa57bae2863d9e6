import ServiceBindings.Decimal.Reading
import ServiceBindings.Text.Blank
import ServiceBindings.Text.Digit

/-! # Numbers as they are typed

`Chars.int?` and `Chars.float?` read the number that a whole text writes. White space around it does not
count, the digits may be those of any script, and there may be one sign.

* A whole number may have the mark of its base in front (`0x1F` to the base sixteen), and single
  underscores between its digits. Only so many decimal digits are read.
* A binary number may have a point and an exponent, or be one of the words for infinity and for the
  undefined number. -/

namespace ServiceBindings

/-- The value of a decimal digit of any script. -/
def decimalValue? (c : Char) : Option Nat :=
  (decimalZeros.find? fun first => first ≤ c.toNat && c.toNat < first + 10).map (c.toNat - ·)

namespace Chars

/-- The decimal digits of all scripts written as those of ASCII. -/
def asciiDigits (cs : List Char) : List Char :=
  cs.map fun c => ((decimalValue? c).map fun d => Char.ofNat (48 + d)).getD c

/-- A text without a sign at its beginning. -/
def unsigned : List Char → List Char
  | '+' :: rest => rest
  | '-' :: rest => rest
  | cs => cs

/-- Digits without the underscores between them; two underscores are never neighbours, and none is the
last character. `mayGroup` says whether one may be the first. -/
def ungrouped? : Bool → List Char → Option (List Char)
  | _, [] => some []
  | true, '_' :: c :: rest => if c = '_' then none else ungrouped? true (c :: rest)
  | _, c :: rest => if c = '_' then none else (ungrouped? true rest).map (c :: ·)

/-- The letter that marks a base. -/
def baseMark? (base : Nat) : Option Char :=
  if base = 2 then some 'b' else if base = 8 then some 'o' else if base = 16 then some 'x' else none

/-- Whether digits have the mark of their base in front, and the digits without it. -/
def withoutMark (base : Nat) : List Char → Bool × List Char
  | '0' :: mark :: rest =>
      if baseMark? base = some mark.toLower then (true, rest) else (false, '0' :: mark :: rest)
  | cs => (false, cs)

/-- The whole number that a text writes to a base. -/
def int? (base : Nat) (cs : List Char) : Option Int :=
  let cs := asciiDigits (strip cs)
  let (marked, digits) := withoutMark base (unsigned cs)
  (ungrouped? marked digits).bind fun digits =>
    if base = 10 ∧ digitLimit < digits.length then none
    else (natOfDigits? base digits).map fun n => if cs.head? = some '-' then -(n : Int) else n

/-- The power of ten that the end of a number says; nothing stands for the power zero. -/
def exponent? : List Char → Option Int
  | [] => some 0
  | mark :: after =>
      if mark = 'e' ∨ mark = 'E' then
        (natOfDigits? 10 (unsigned after)).map fun n =>
          if after.head? = some '-' then -(n : Int) else n
      else none

/-- The binary number nearest to an ASCII text of digits with an optional point and an optional
exponent. -/
def decimal? (cs : List Char) : Option Float :=
  let (whole, rest) := cs.span Char.isDigit
  let (fraction, rest) := match rest with
    | '.' :: after => after.span Char.isDigit
    | _ => ([], rest)
  if whole.isEmpty && fraction.isEmpty then none
  else
    (exponent? rest).map fun exponent =>
      Decimal.toFloat ⟨natOfDecimal (whole ++ fraction), exponent - (fraction.length : Int)⟩

/-- The binary number that a text writes. -/
def float? (cs : List Char) : Option Float :=
  let cs := asciiDigits (strip cs)
  let body := unsigned cs
  let word : String := .ofList (body.map Char.toLower)
  let magnitude :=
    if word = "inf" ∨ word = "infinity" then some (1.0 / 0.0)
    else if word = "nan" then some (0.0 / 0.0)
    else decimal? body
  magnitude.map fun x => if cs.head? = some '-' then -x else x

end Chars

end ServiceBindings
