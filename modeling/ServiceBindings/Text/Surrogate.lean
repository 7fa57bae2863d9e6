/-! # Surrogates

A text of the program may hold **surrogates**, the numbers from `0xD800` to `0xDFFF`, which are no characters:
an escape in a document stands for one, and so does a byte of a command line that belongs to no character. A
`SurrogateBlock` sets characters aside that stand for them, so that a text is a sequence of characters all the
same.

* A text with a surrogate cannot be encoded (`SurrogateBlock.encodes`).
* The surrogates of single bytes may stand in the name of a file (`SurrogateBlock.encodesName`), since the
  system is asked about the bytes (`SurrogateBlock.nameBytes`). -/

namespace ServiceBindings

/-- Whether a number is that of a surrogate. -/
def isSurrogate (unit : Nat) : Bool := decide (0xD800 ≤ unit ∧ unit < 0xE000)

/-- Characters in a row that stand for the surrogates, one for each. -/
structure SurrogateBlock where
  /-- The number of the first character. -/
  start : Nat
  /-- They are characters. -/
  isValid : ∀ offset < 0x800, (start + offset).isValidChar

namespace SurrogateBlock

/-- The first characters of the last plane, to which no text gives a meaning. -/
def standard : SurrogateBlock where
  start := 0x100000
  isValid offset h := .inr ⟨by omega, by omega⟩

/-- The character that stands for a surrogate. -/
def char (b : SurrogateBlock) (unit : Nat) : Char := Char.ofNat (b.start + (unit - 0xD800))

/-- The surrogate that a character stands for. -/
def surrogate? (b : SurrogateBlock) (c : Char) : Option Nat :=
  if b.start ≤ c.toNat ∧ c.toNat < b.start + 0x800 then some (0xD800 + (c.toNat - b.start)) else none

/-- **The character of a surrogate stands for it.** -/
theorem surrogate?_char (b : SurrogateBlock) {unit : Nat} (h : isSurrogate unit = true) :
    b.surrogate? (b.char unit) = some unit := by
  have hrange : 0xD800 ≤ unit ∧ unit < 0xE000 := of_decide_eq_true h
  have hvalid := b.isValid (unit - 0xD800) (by omega)
  have hnumber : (b.char unit).toNat = b.start + (unit - 0xD800) := by
    rw [char, Char.ofNat, dif_pos hvalid]
    rfl
  rw [surrogate?, hnumber, if_pos (by omega)]
  exact congrArg some (by omega)

/-- Whether a text can be encoded. -/
def encodes (b : SurrogateBlock) (text : String) : Bool :=
  text.toList.all fun c => (b.surrogate? c).isNone

/-- A text in two parts can be encoded if both can. -/
theorem encodes_append (b : SurrogateBlock) (s t : String) :
    b.encodes (s ++ t) = (b.encodes s && b.encodes t) := by
  simp [encodes]

/-- A joined text can be encoded if all its parts can. -/
theorem encodes_join (b : SurrogateBlock) (texts : List String) :
    b.encodes (.join texts) = texts.all b.encodes := by
  induction texts with
  | nil => rfl
  | cons t rest ih => rw [String.join_cons, encodes_append, ih, List.all_cons]

/-- Whether the system can be asked about a name: of the surrogates it holds only those of single bytes. -/
def encodesName (b : SurrogateBlock) (name : String) : Bool :=
  name.toList.all fun c =>
    match b.surrogate? c with
    | none => true
    | some unit => decide (0xDC80 ≤ unit ∧ unit < 0xDD00)

/-- The bytes of a character in a name that the system can be asked about. -/
def charBytes (b : SurrogateBlock) (c : Char) : List UInt8 :=
  match b.surrogate? c with
  | none => String.utf8EncodeChar c
  | some unit => [.ofNat (unit - 0xDC00)]

/-- The bytes of a name that the system can be asked about. -/
def nameBytes (b : SurrogateBlock) (name : String) : List UInt8 := name.toList.flatMap b.charBytes

end SurrogateBlock

end ServiceBindings
