import ServiceBindings.Text.Capital
import ServiceBindings.Text.LowerTable

/-! # Small letters

* `lowerOf` is the lower-case form of a character. One capital letter has a form of two characters, the
  capital `İ`.
* `Text.lower` writes every character of a text in lower case. The Greek capital `Σ` has a form of its
  own **at the end of a word**. -/

namespace ServiceBindings

/-- The small letter of a character outside ASCII; a character that the table does not name is its own
small letter. -/
def smallOf (code : Nat) : Nat :=
  match Text.lowerRuns.find? fun (first, last, step, _) =>
      first ≤ code && code ≤ last && (code - first) % step == 0 with
  | some (_, _, _, distance) => ((code : Int) + distance).toNat
  | none => code

/-- The lower-case form of a character. -/
def lowerOf (c : Char) : List Char :=
  if c.toNat < 128 then [c.toLower]
  else if c = '\u0130' then ['i', '\u0307']
  else [Char.ofNat (smallOf c.toNat)]

/-- Whether a character is a capital or a small letter. -/
def isCased (c : Char) : Bool := lowerOf c != [c] || capital c != [c]

/-- Whether a character can stand within a word without being a letter. -/
def isInWord (c : Char) : Bool := c == '.' || c == '\'' || c == ':' || c == '\u00AD' || c == '\u00B7'

namespace Chars

/-- Whether the next character but those that can stand within a word is a letter. -/
def goesOn (cs : List Char) : Bool := ((cs.dropWhile isInWord).head?.map isCased).getD false

/-- Write every character in lower case, after the characters `before`, the last one first. -/
def lowerAfter : List Char → List Char → List Char
  | _, [] => []
  | before, c :: rest =>
      (if c = 'Σ' ∧ goesOn before ∧ !goesOn rest then ['ς'] else lowerOf c) ++
        lowerAfter (c :: before) rest

end Chars

namespace Text

/-- A text in lower case. -/
def lower (text : String) : String := .ofList (Chars.lowerAfter [] text.toList)

end Text

end ServiceBindings
