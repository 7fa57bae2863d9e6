import ServiceBindings.Text.PrintableTable

/-! # Quoted display of a text

`Text.quoted` shows a text between quotation marks so that a reader sees every character of it:

* the mark is the apostrophe, or the double quote where the text holds an apostrophe and no double
  quote;
* the mark and the backslash are escaped by a backslash, and tab, line feed and carriage return have
  letter escapes;
* a character without a printed form is shown by its number in hexadecimal, in two, four or eight
  digits.

`Text.quotedBytes` shows bytes in the same way; only the bytes of ASCII characters have a printed
form. -/

namespace ServiceBindings

/-- Whether a character has a printed form of its own. -/
def isPrintable (c : Char) : Bool :=
  if c.toNat < 127 then 32 ≤ c.toNat
  else Text.unprintableRanges.all fun (first, last) => c.toNat < first || last < c.toNat

namespace Text

/-- A number in hexadecimal, in at least `width` lower-case digits. -/
def hex (width n : Nat) : List Char :=
  let digits := Nat.toDigits 16 n
  List.replicate (width - digits.length) '0' ++ digits

/-- How one character is shown between quotation marks `mark`. -/
def displayChar (mark c : Char) : List Char :=
  if c = mark ∨ c = '\\' then ['\\', c]
  else if c = '\t' then ['\\', 't']
  else if c = '\n' then ['\\', 'n']
  else if c = '\r' then ['\\', 'r']
  else if isPrintable c then [c]
  else if c.toNat < 0x100 then '\\' :: 'x' :: hex 2 c.toNat
  else if c.toNat < 0x10000 then '\\' :: 'u' :: hex 4 c.toNat
  else '\\' :: 'U' :: hex 8 c.toNat

/-- The quotation mark that a text is shown in. -/
def quotationMark (text : List Char) : Char :=
  if '\'' ∈ text ∧ '"' ∉ text then '"' else '\''

/-- A text between quotation marks, every character of it visible. -/
def quoted (text : String) : String :=
  let mark := quotationMark text.toList
  .ofList (mark :: text.toList.flatMap (displayChar mark) ++ [mark])

/-- Bytes between quotation marks, every byte of them visible. -/
def quotedBytes (bytes : List UInt8) : String :=
  let text := bytes.map fun b => Char.ofNat b.toNat
  let mark := quotationMark text
  let shown (c : Char) : List Char :=
    if c.toNat < 128 then displayChar mark c else '\\' :: 'x' :: hex 2 c.toNat
  .ofList (mark :: text.flatMap shown ++ [mark])

end Text

end ServiceBindings
