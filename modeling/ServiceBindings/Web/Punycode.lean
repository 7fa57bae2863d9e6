/-! # Short encodings of texts beyond ASCII

`Punycode.encode` writes a text in ASCII: the characters of ASCII first, a hyphen, and then one number for
each other character, which says **how many steps** lead there from the character before. The steps go
through all positions of the text for a code point, then for the next code point. A number is written to
the base thirty-six, the lowest digit first. A digit below a threshold is the last one, and the thresholds
follow a bias that adapts to the numbers so far.

`Punycode.decode?` reads what `Punycode.encode` writes. -/

namespace ServiceBindings

namespace Punycode

/-- The digit for a number below thirty-six. -/
def digit (n : Nat) : Char := if n < 26 then Char.ofNat (97 + n) else Char.ofNat (22 + n)

/-- The number that a digit stands for. -/
def digitValue? (c : Char) : Option Nat :=
  if c.isAlpha then some (c.toLower.toNat - 97)
  else if c.isDigit then some (c.toNat - 22)
  else none

/-- The least number that is not the last digit at a position, given the bias. -/
def threshold (bias position : Nat) : Nat := min 26 (max 1 (position - bias))

/-- A threshold is a digit, and not zero. -/
theorem one_le_threshold (bias position : Nat) : 1 ≤ threshold bias position := by
  simp only [threshold]
  omega

/-- Divide a number until it is small: what is left of it, and by how much the bias grows. -/
def shrink (delta grown : Nat) : Nat × Nat :=
  if 455 < delta then shrink (delta / 35) (grown + 36) else (delta, grown)
termination_by delta
decreasing_by omega

/-- The bias after a number, given how many characters are written and whether it is the first one. -/
def adapt (delta count : Nat) (first : Bool) : Nat :=
  let delta := if first then delta / 700 else delta / 2
  let (left, grown) := shrink (delta + delta / count) 0
  grown + 36 * left / (left + 38)

/-! ## Encoding -/

/-- The digits of a number, from a position on. -/
def digits (bias : Nat) : Nat → Nat → List Char
  | position, n =>
      let t := threshold bias position
      if n < t then [digit n]
      else digit (t + (n - t) % (36 - t)) :: digits bias (position + 36) ((n - t) / (36 - t))
termination_by _ n => n
decreasing_by
  have positive := one_le_threshold bias position
  have : (n - threshold bias position) / (36 - threshold bias position) ≤
      n - threshold bias position := Nat.div_le_self _ _
  simp only [t] at *
  omega

/-- What is known while characters are written. -/
structure Writing where
  /-- What is written. -/
  written : List Char
  /-- The number to write next. -/
  delta : Nat
  /-- The bias. -/
  bias : Nat
  /-- How many characters are written. -/
  count : Nat

/-- Pass one character while the characters with the number `code` are written. -/
def pass (plain code : Nat) (s : Writing) (c : Char) : Writing :=
  if c.toNat < code then { s with delta := s.delta + 1 }
  else if c.toNat = code then
    { written := s.written ++ digits s.bias 36 s.delta
      delta := 0
      bias := adapt s.delta (s.count + 1) (s.count == plain)
      count := s.count + 1 }
  else s

/-- Write the characters with the given numbers, in order; `next` is the least number that can follow. -/
def writeFrom (text : List Char) (plain : Nat) : List Nat → Nat → Writing → Writing
  | [], _, s => s
  | code :: rest, next, s =>
      let start := { s with delta := s.delta + (code - next) * (s.count + 1) }
      let s := text.foldl (pass plain code) start
      writeFrom text plain rest (code + 1) { s with delta := s.delta + 1 }

/-- Encode a text in ASCII: its ASCII characters, a hyphen if there are any, and the others. -/
def encode (text : List Char) : List Char :=
  let plain := text.filter fun c => c.toNat < 128
  let codes := ((text.filter fun c => 128 ≤ c.toNat).map Char.toNat).mergeSort.eraseDups
  plain ++ (if plain.isEmpty then [] else ['-']) ++
    (writeFrom text plain.length codes 128 ⟨[], 0, 72, plain.length⟩).written

/-! ## Decoding -/

/-- What is known while digits are read. -/
structure Reading where
  /-- The text so far. -/
  text : List Char
  /-- The position that comes next. -/
  place : Nat
  /-- The code point that comes next. -/
  code : Nat
  /-- The bias. -/
  bias : Nat
  /-- Whether no number has been read. -/
  first : Bool
  /-- The number so far, if its last digit has not been read. -/
  delta : Nat
  /-- What its next digit counts. -/
  weight : Nat
  /-- The position of its next digit. -/
  position : Nat

/-- Take a number: the character that it leads to is part of the text. -/
def Reading.take? (s : Reading) (delta : Nat) : Option Reading :=
  let count := s.text.length + 1
  let code := s.code + (s.place + delta) / count
  let place := (s.place + delta) % count
  if code.isValidChar then some {
    text := s.text.take place ++ Char.ofNat code :: s.text.drop place
    place := place + 1
    code := code
    bias := adapt delta count s.first
    first := false
    delta := 0
    weight := 1
    position := 36 }
  else none

/-- Read digits up to the end of the last number. -/
def readFrom (s : Reading) : List Char → Option (List Char)
  | [] => if s.position = 36 then some s.text else none
  | c :: rest =>
      match digitValue? c with
      | none => none
      | some n =>
          let delta := s.delta + n * s.weight
          let t := threshold s.bias s.position
          if n < t then (s.take? delta).bind fun s => readFrom s rest
          else
            readFrom { s with
              delta := delta, weight := s.weight * (36 - t), position := s.position + 36 } rest

/-- Decode a text. -/
def decode? (cs : List Char) : Option (List Char) :=
  let numbers := (cs.reverse.takeWhile (· != '-')).reverse
  let plain := (cs.take (cs.length - numbers.length)).dropLast
  readFrom ⟨plain, 0, 128, 72, true, 0, 1, 36⟩ numbers

end Punycode

end ServiceBindings
