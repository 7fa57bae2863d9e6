/-! # Bytes in UTF-8

A character is written in one to four bytes. `Utf8.characters` are the characters that bytes write: U+FFFD
stands for what cannot be read, and a sequence of bytes that begins like a character and breaks off is replaced
as a whole. `Utf8.decode` is their text. -/

namespace ServiceBindings

namespace Utf8

/-- The character that stands for what cannot be read. -/
def replacement : Char := '\uFFFD'

/-- A character that is not complete: the number so far, and the range of each byte to come. -/
structure Begun where
  /-- The bits so far. -/
  bits : Nat
  /-- The range of the next byte. -/
  next : Nat × Nat
  /-- The ranges of the bytes after it. -/
  later : List (Nat × Nat)

/-- The range of the bytes that continue a character. -/
def continuation : Nat × Nat := (0x80, 0xBF)

/-- Read the first byte of a character: a character, or one that is not complete. -/
def first (b : Nat) : Char ⊕ Begun :=
  if b < 0x80 then .inl (.ofNat b)
  else if 0xC2 ≤ b ∧ b ≤ 0xDF then .inr ⟨b % 32, continuation, []⟩
  else if b = 0xE0 then .inr ⟨0, (0xA0, 0xBF), [continuation]⟩
  else if b = 0xED then .inr ⟨13, (0x80, 0x9F), [continuation]⟩
  else if 0xE1 ≤ b ∧ b ≤ 0xEF then .inr ⟨b % 16, continuation, [continuation]⟩
  else if b = 0xF0 then .inr ⟨0, (0x90, 0xBF), [continuation, continuation]⟩
  else if 0xF1 ≤ b ∧ b ≤ 0xF3 then .inr ⟨b % 8, continuation, [continuation, continuation]⟩
  else if b = 0xF4 then .inr ⟨4, (0x80, 0x8F), [continuation, continuation]⟩
  else .inl replacement

/-- Read bytes after a character that is not complete, if there is one. -/
def characters : Option Begun → List UInt8 → List Char
  | none, [] => []
  | some _, [] => [replacement]
  | none, b :: rest =>
      match first b.toNat with
      | .inl c => c :: characters none rest
      | .inr p => characters (some p) rest
  | some p, b :: rest =>
      if p.next.1 ≤ b.toNat ∧ b.toNat ≤ p.next.2 then
        let bits := p.bits * 64 + b.toNat % 64
        match p.later with
        | [] => .ofNat bits :: characters none rest
        | next :: later => characters (some ⟨bits, next, later⟩) rest
      else
        replacement :: match first b.toNat with
          | .inl c => c :: characters none rest
          | .inr p => characters (some p) rest

/-- The text that bytes write. -/
def decode (bytes : List UInt8) : String := .ofList (characters none bytes)

end Utf8

end ServiceBindings
