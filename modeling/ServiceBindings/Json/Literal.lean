import ServiceBindings.Value
import ServiceBindings.Text.Printable

/-! # JSON literals

* `Json.quote` writes a text as a JSON string that consists of **printable ASCII characters** alone:
  the quotation mark and the backslash are escaped, and so is every control character and every
  character beyond ASCII. A character beyond the sixteen-bit range is written as two escapes.
* `Json.literal?` writes a scalar that JSON has a literal for. -/

namespace ServiceBindings

namespace Json

/-- The escape of a sixteen-bit unit, by its number in four hexadecimal digits. -/
def escapeUnit (unit : Nat) : List Char := '\\' :: 'u' :: Text.hex 4 unit

/-- How a character is written between quotation marks. -/
def escapeChar (c : Char) : List Char :=
  if c = '"' then ['\\', '"']
  else if c = '\\' then ['\\', '\\']
  else if c = '\n' then ['\\', 'n']
  else if c = '\r' then ['\\', 'r']
  else if c = '\t' then ['\\', 't']
  else if c = '\x08' then ['\\', 'b']
  else if c = '\x0c' then ['\\', 'f']
  else if 32 ≤ c.toNat ∧ c.toNat < 127 then [c]
  else if c.toNat < 0x10000 then escapeUnit c.toNat
  else
    let n := c.toNat - 0x10000
    escapeUnit (0xD800 + n / 0x400) ++ escapeUnit (0xDC00 + n % 0x400)

/-- The characters of a JSON string for a text. -/
def quoteChars (cs : List Char) : List Char := '"' :: cs.flatMap escapeChar ++ ['"']

/-- A text as a JSON string. -/
def quote (text : String) : String := .ofList (quoteChars text.toList)

@[simp] theorem toList_quote (text : String) : (quote text).toList = quoteChars text.toList := by
  simp [quote]

/-- How numbers are written in JSON texts. -/
def notationOfNumbers : NumberNotation where
  plainFrom := -4
  plainBelow := 16
  undefinedName := "NaN"
  infinityName := "Infinity"

/-- The JSON literal of a scalar; dates, timestamps and bytes have none. -/
def literal? : Scalar → Option String
  | .null => some "null"
  | .flag true => some "true"
  | .flag false => some "false"
  | .int n => some (toString n)
  | .float x => some (notationOfNumbers.text x)
  | .text s => some (quote s)
  | .date _ => none
  | .timestamp _ => none
  | .bytes _ => none

end Json

end ServiceBindings
