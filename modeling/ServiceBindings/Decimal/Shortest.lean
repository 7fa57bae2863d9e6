/-! # The shortest decimal of a binary number

A binary floating-point number stands for every real that rounds to it. `Binary.shortest` picks,
among the decimals with the **fewest digits** that lie in this interval, the one nearest to the
number; of two equally near ones the digit is even.

* `Binary` is a positive number `significand · 2 ^ exponent`.
* `Binary.Covers x d` says that the decimal `d` rounds to `x`; the ends of the interval belong to it
  exactly when the significand is even.
* `Binary.shortest` tries one digit, two digits, … on the two neighbours of the number on that
  decimal grid, in exact arithmetic on naturals. -/

namespace ServiceBindings

/-- The decimal number `digits · 10 ^ exponent`. -/
structure Decimal where
  /-- The digits, read as a natural number. -/
  digits : Nat
  /-- The power of ten that the digits are multiplied by. -/
  exponent : Int
  deriving DecidableEq, Repr

namespace Decimal

/-- The same number without zeros at the end of its digits; `steps` bounds how many are dropped. -/
def dropZeros : Nat → Decimal → Decimal
  | 0, d => d
  | steps + 1, d =>
      if d.digits % 10 = 0 ∧ d.digits ≠ 0 then dropZeros steps ⟨d.digits / 10, d.exponent + 1⟩
      else d

end Decimal

/-- The number of decimal digits of a natural number; one for zero. -/
def digitCount (n : Nat) : Nat := (Nat.toDigits 10 n).length

/-- The fields of a floating-point number of sixty-four bits. -/
structure FloatFields where
  /-- Whether the sign bit is set. -/
  negative : Bool
  /-- The eleven bits of the exponent. -/
  exponent : Nat
  /-- The fifty-two bits of the fraction. -/
  fraction : Nat
  deriving DecidableEq, Repr

namespace FloatFields

/-- The fields of sixty-four bits: the sign is the highest bit, then come the exponent and the
fraction. -/
def ofBits (bits : Nat) : FloatFields :=
  ⟨bits.testBit 63, (bits >>> 52) % 2048, bits % Nat.pow 2 52⟩

/-- Whether the number is finite; the largest exponent is kept for the others. -/
def isFinite (fields : FloatFields) : Bool := decide (fields.exponent ≠ 2047)

/-- Whether the number is a zero of either sign. -/
def isZero (fields : FloatFields) : Bool := decide (fields.exponent = 0 ∧ fields.fraction = 0)

end FloatFields

/-- A positive binary number `significand · 2 ^ exponent`. -/
structure Binary where
  /-- The significand. -/
  significand : Nat
  /-- The power of two that the significand is multiplied by. -/
  exponent : Int
  /-- Whether the number below is only half as far away as the number above, as it is at a power of
  two. -/
  narrowBelow : Bool
  deriving DecidableEq, Repr

namespace Binary

/-- The magnitude of a finite number. -/
def ofFields (fields : FloatFields) : Binary :=
  if fields.exponent = 0 then ⟨fields.fraction, -1074, false⟩
  else ⟨Nat.pow 2 52 + fields.fraction, (fields.exponent : Int) - 1075,
    decide (fields.fraction = 0 ∧ 1 < fields.exponent)⟩

/-- Compare `a · 10 ^ i` with `b · 2 ^ j`. -/
def compareScaled (a : Nat) (i : Int) (b : Nat) (j : Int) : Ordering :=
  compare (a * Nat.pow 10 i.toNat * Nat.pow 2 (-j).toNat)
    (b * Nat.pow 2 j.toNat * Nat.pow 10 (-i).toNat)

/-- Whether a decimal lies among the reals that round to a binary number: between the points halfway
to its neighbours, these points included exactly when the significand is even. -/
def covers (x : Binary) (d : Decimal) : Bool :=
  let low := if x.narrowBelow then 4 * x.significand - 1 else 4 * x.significand - 2
  let high := 4 * x.significand + 2
  let closed := x.significand % 2 == 0
  let atLow := compareScaled d.digits d.exponent low (x.exponent - 2)
  let atHigh := compareScaled d.digits d.exponent high (x.exponent - 2)
  (atLow == .gt || (closed && atLow == .eq)) && (atHigh == .lt || (closed && atHigh == .eq))

/-- The number as a quotient of naturals. -/
def quotient (x : Binary) : Nat × Nat :=
  (x.significand * Nat.pow 2 x.exponent.toNat, Nat.pow 2 (-x.exponent).toNat)

/-- The exponent `k` with `10 ^ (k - 1) ≤ x < 10 ^ k`. -/
def scale (x : Binary) : Int :=
  let (num, den) := x.quotient
  if den ≤ num then digitCount (num / den)
  else
    let count := digitCount (den / num)
    if den ≤ num * Nat.pow 10 (count - 1) then 2 - (count : Int) else 1 - (count : Int)

/-- The decimal of `count` digits nearest to a number that rounds to it, if one of the two neighbours
on that grid does. -/
def nearest? (x : Binary) (count : Nat) : Option Decimal :=
  let grid := x.scale - count
  let (num, den) := x.quotient
  let num := num * Nat.pow 10 (-grid).toNat
  let den := den * Nat.pow 10 grid.toNat
  let below : Decimal := ⟨num / den, grid⟩
  let above : Decimal := ⟨num / den + 1, grid⟩
  match x.covers below, x.covers above with
  | false, false => none
  | true, false => some below
  | false, true => some above
  | true, true =>
      match compare (2 * num) ((2 * below.digits + 1) * den) with
      | .lt => some below
      | .gt => some above
      | .eq => if below.digits % 2 = 0 then some below else some above

/-- The number itself as a decimal: every binary fraction ends after finitely many digits. -/
def exact (x : Binary) : Decimal :=
  ⟨x.significand * Nat.pow 2 x.exponent.toNat * Nat.pow 5 (-x.exponent).toNat, min x.exponent 0⟩

/-- The shortest decimal that rounds to a number, the nearest of these. Seventeen digits are always
enough; were they not, the number would be given exactly. -/
def shortest (x : Binary) : Decimal :=
  let found := ((List.range 17).findSome? fun i => x.nearest? (i + 1)).getD x.exact
  found.dropZeros (digitCount found.digits)

end Binary

end ServiceBindings
