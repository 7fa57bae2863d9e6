import ServiceBindings.Decimal.Shortest

/-! # Reading decimals

`Decimal.toFloat` is the binary number nearest to a decimal. A decimal beyond every finite binary
number reads as the infinity, one below the least as zero, and neither is multiplied out.

`digitValue?` and `natOfDigits?` read digits in a base up to sixteen. Where a text is taken as a number, the
interpreter reads at most `digitLimit` decimal digits, leading zeros included. -/

namespace ServiceBindings

namespace Decimal

/-- The binary number nearest to a decimal. -/
def toFloat (d : Decimal) : Float :=
  let lead := d.exponent + digitCount d.digits
  if d.digits = 0 ∨ lead < -400 then Float.ofScientific 0 false 0
  else if 400 < lead then Float.ofScientific 1 false 400
  else Float.ofScientific d.digits (decide (d.exponent < 0)) d.exponent.natAbs

end Decimal

/-- The value of a digit, in either case of the letters. -/
def digitValue? (c : Char) : Option Nat :=
  let n := c.toNat
  if 48 ≤ n ∧ n ≤ 57 then some (n - 48)
  else if 97 ≤ n ∧ n ≤ 102 then some (n - 87)
  else if 65 ≤ n ∧ n ≤ 70 then some (n - 55)
  else none

/-- The number that the digits continue, read from left to right in a base. -/
def natOfDigitsFrom? (base : Nat) : Nat → List Char → Option Nat
  | n, [] => some n
  | n, c :: rest =>
      match digitValue? c with
      | some d => if d < base then natOfDigitsFrom? base (n * base + d) rest else none
      | none => none

/-- The number that one or more digits write in a base. -/
def natOfDigits? (base : Nat) (digits : List Char) : Option Nat :=
  if digits.isEmpty then none else natOfDigitsFrom? base 0 digits

/-- The greatest number of decimal digits that are read as a whole number. -/
def digitLimit : Nat := 4300

/-- Whether a text is a whole number in decimal digits, and has too many of them. -/
def isOverlong (text : String) : Bool :=
  (natOfDigits? 10 text.toList).isSome && decide (digitLimit < text.length)

/-- The number that decimal digits write; zero for no digits. -/
def natOfDecimal (digits : List Char) : Nat := (natOfDigits? 10 digits).getD 0

end ServiceBindings
