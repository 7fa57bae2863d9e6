import ServiceBindings.Text.Lower
import ServiceBindings.Text.Replace
import ServiceBindings.Text.Split
import ServiceBindings.Web.Composition
import ServiceBindings.Web.NameTable
import ServiceBindings.Web.Punycode

/-! # Names of hosts beyond ASCII

A name has parts with dots between them. `DomainName.isPart` says which texts can be parts:

* all characters are letters, marks, digits and hyphens; a few others are allowed **next to certain
  neighbours** (`fits`);
* the text is composed, and it does not begin with a mark;
* no hyphen is at its ends, and the third and fourth character are not both hyphens;
* a text with letters that are written from right to left begins with such a letter, and has no others.

`DomainName.ascii?` is a name in ASCII: each part beyond ASCII is encoded. -/

namespace ServiceBindings

namespace DomainName

/-! ## Classes of characters -/

/-- Whether a character is in one of the ranges. -/
def isAmong (ranges : List (Nat × Nat)) (c : Char) : Bool :=
  ranges.any fun (first, last) => first ≤ c.toNat && c.toNat ≤ last

/-- Whether a character is allowed next to all neighbours. -/
def isNameCharacter (c : Char) : Bool := isAmong nameRanges c && lowerOf c == [c]

/-- How a character is placed in a line. -/
inductive Direction where
  /-- After the character to its left. -/
  | rightward
  /-- After the character to its right. -/
  | leftward
  /-- As a part of an Arabic number. -/
  | arabicNumber
  /-- As a part of another number. -/
  | number
  /-- Over another character. -/
  | overlaid
  /-- Like its neighbours. -/
  | neutral
  deriving DecidableEq, Repr

/-- How a character is placed in a line. -/
def direction (c : Char) : Direction :=
  if isAmong leftwardRanges c then .leftward
  else if isAmong arabicNumberRanges c then .arabicNumber
  else if isAmong numberRanges c then .number
  else if isAmong overlaidRanges c then .overlaid
  else if isAmong neutralRanges c then .neutral
  else .rightward

/-! ## Parts -/

/-- Whether a letter of a class is next, apart from marks. -/
def joins (ranges : List (Nat × Nat)) (cs : List Char) : Bool :=
  (cs.dropWhile fun c => direction c == .overlaid).head?.any (isAmong ranges)

/-- Whether a character can stand behind the characters `before`, the last one first, and in front of the
characters `after`. -/
def fits (before : List Char) (c : Char) (after : List Char) : Bool :=
  let isAfterVirama := before.head?.any (isAmong viramaRanges)
  let isArabicDigit (d : Char) : Bool := '\u0660' ≤ d && d ≤ '\u0669'
  let isPersianDigit (d : Char) : Bool := '\u06F0' ≤ d && d ≤ '\u06F9'
  if c = '\u00B7' then before.head? == some 'l' && after.head? == some 'l'
  else if c = '\u0375' then after.head?.any (isAmong greekRanges)
  else if c = '\u05F3' || c = '\u05F4' then before.head?.any (isAmong hebrewRanges)
  else if c = '\u30FB' then (before ++ after).any (isAmong eastAsianRanges)
  else if isArabicDigit c then !(before ++ after).any isPersianDigit
  else if isPersianDigit c then !(before ++ after).any isArabicDigit
  else if c = '\u200D' then isAfterVirama
  else if c = '\u200C' then
    isAfterVirama || (joins joinsNextRanges before && joins joinsPreviousRanges after)
  else isNameCharacter c

/-- Whether all characters can stand behind the characters `before`, the last one first. -/
def allFit : List Char → List Char → Bool
  | _, [] => true
  | before, c :: rest => fits before c rest && allFit (c :: before) rest

/-- Whether hyphens are where they can be. -/
def hyphensFit (cs : List Char) : Bool :=
  cs.head? != some '-' && cs.getLast? != some '-' && (cs.drop 2).take 2 != ['-', '-']

/-- Whether the characters can stand together in one line. -/
def directionsFit (cs : List Char) : Bool :=
  let ds := cs.map direction
  if ds.contains .leftward || ds.contains .arabicNumber then
    ds.head? == some .leftward && !ds.contains .rightward &&
      !(ds.contains .number && ds.contains .arabicNumber) &&
      (ds.reverse.dropWhile (· == .overlaid)).head? != some .neutral
  else true

/-- The greatest length of a name, with a dot at its end. -/
def lengthLimit : Nat := 254

/-- Whether a text can be a part of a name. -/
def isPart (cs : List Char) : Bool :=
  !cs.isEmpty && cs.length ≤ lengthLimit && composed cs == cs && hyphensFit cs &&
    !cs.head?.any (isAmong markRanges) && allFit [] cs && directionsFit cs

/-! ## Names -/

/-- The characters that part a name. -/
def isDot (c : Char) : Bool := c == '.' || c == '\u3002' || c == '\uFF0E' || c == '\uFF61'

/-- What an encoded part begins with. -/
def mark : List Char := "xn--".toList

/-- One part of a name in ASCII, if it is one. A part in ASCII stays; it can be encoded already. -/
def asciiPart? (part : List Char) : Option (List Char) :=
  let inAscii := part.all fun c => c.toNat < 128
  let (decoded, encoded) :=
    if !inAscii then (some part, mark ++ Punycode.encode part)
    else
      let small := part.map Char.toLower
      if !mark.isPrefixOf small then (some small, part)
      else
        let rest := small.drop mark.length
        (if rest.getLast? == some '-' then none else Punycode.decode? rest, part)
  if decoded.any isPart && encoded.length ≤ 63 then some encoded else none

/-- A name in ASCII. The last of its parts may be empty. -/
def ascii? (name : List Char) : Option (List Char) := do
  guard (name.length ≤ lengthLimit)
  let parts := Chars.splitWhere isDot name
  let isClosed := parts.length != 1 && parts.getLast? == some []
  let parts ← (if isClosed then parts.dropLast else parts).mapM asciiPart?
  let text := ['.'].intercalate (if isClosed then parts ++ [[]] else parts)
  guard (text.length ≤ (if isClosed then lengthLimit else lengthLimit - 1))
  return text

end DomainName

end ServiceBindings
