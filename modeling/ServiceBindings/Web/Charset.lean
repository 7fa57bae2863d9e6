import ServiceBindings.Text.Replace
import ServiceBindings.Text.Split
import ServiceBindings.Web.CodePageTable
import ServiceBindings.Web.Utf8

/-! # Character sets

A `Charset` says which text bytes write. `Charset.decode?` is that text. U+FFFD stands for what cannot be
read. There is **no text only where a byte order mark is needed** and is not there. `Charset.ofName?` finds a
character set by one of its names. -/

namespace ServiceBindings

/-- A way to write text in bytes. -/
inductive Charset where
  /-- One to four bytes for a character. `marked` says that a byte order mark at the start is no part of
  the text. -/
  | utf8 (marked : Bool)
  /-- Units of two bytes, the high byte first or the low byte. A byte order mark says which if this is not
  known. -/
  | utf16 (highFirst : Option Bool)
  /-- Units of four bytes, the highest byte first or the lowest. -/
  | utf32 (highFirst : Option Bool)
  /-- The characters of ASCII alone. -/
  | ascii
  /-- The first characters of Unicode. -/
  | latin
  /-- A code page. -/
  | page (characters : CodePage)
  deriving DecidableEq, Repr

namespace Charset

open Utf8 (replacement)

/-! ## Larger units -/

/-- The number that two bytes write. -/
def pairOf (highFirst : Bool) (a b : UInt8) : Nat :=
  if highFirst then a.toNat * 256 + b.toNat else b.toNat * 256 + a.toNat

/-- The numbers that pairs of bytes write, and whether a byte is left. -/
def pairs (highFirst : Bool) : List UInt8 → List Nat × Bool
  | [] => ([], false)
  | [_] => ([], true)
  | a :: b :: rest =>
      let (units, left) := pairs highFirst rest
      (pairOf highFirst a b :: units, left)

/-- Read units of two bytes. Two of them write one character if the first is a high surrogate and the
second a low one. `left` says whether a byte is left. -/
def decodeUtf16 (left : Bool) : List Nat → List Char
  | [] => if left then [replacement] else []
  | [u] =>
      if 0xD800 ≤ u ∧ u < 0xDC00 then [replacement]
      else (if 0xDC00 ≤ u ∧ u < 0xE000 then replacement else .ofNat u) ::
        (if left then [replacement] else [])
  | u :: v :: rest =>
      if 0xD800 ≤ u ∧ u < 0xDC00 then
        if 0xDC00 ≤ v ∧ v < 0xE000 then
          .ofNat (0x10000 + (u - 0xD800) * 1024 + (v - 0xDC00)) :: decodeUtf16 left rest
        else replacement :: decodeUtf16 left (v :: rest)
      else
        (if 0xDC00 ≤ u ∧ u < 0xE000 then replacement else .ofNat u) :: decodeUtf16 left (v :: rest)

/-- Read units of four bytes. -/
def decodeUtf32 (highFirst : Bool) : List UInt8 → List Char
  | a :: b :: c :: d :: rest =>
      let (low, high) :=
        if highFirst then (pairOf true c d, pairOf true a b)
        else (pairOf false a b, pairOf false c d)
      let code := high * 65536 + low
      (if code.isValidChar then .ofNat code else replacement) :: decodeUtf32 highFirst rest
  | [] => []
  | _ => [replacement]

/-! ## All character sets -/

/-- The character that a byte of a code page stands for. -/
def characterOf (characters : Array Char) (b : UInt8) : Char :=
  if characters.size = 256 then characters.getD b.toNat replacement
  else if b < 128 then .ofNat b.toNat
  else characters.getD (b.toNat - 128) replacement

/-- What a byte order mark of `size` bytes at the start says: the order, and what follows the mark. -/
def cutMark? (size : Nat) (bytes : List UInt8) : Option (Bool × List UInt8) :=
  let zeros := List.replicate (size - 2) 0
  if bytes.take size = [0xFF, 0xFE] ++ zeros then some (false, bytes.drop size)
  else if bytes.take size = zeros ++ [0xFE, 0xFF] then some (true, bytes.drop size)
  else none

/-- Read units in an order that a mark of `size` bytes says if it is not known. Bytes that are fewer than
a mark are replaced as a whole. -/
def decodeOrdered? (size : Nat) (decode : Bool → List UInt8 → List Char) (highFirst : Option Bool)
    (bytes : List UInt8) : Option (List Char) :=
  match highFirst with
  | some order => some (decode order bytes)
  | none =>
      if bytes.isEmpty then some []
      else if bytes.length < size then some [replacement]
      else (cutMark? size bytes).map fun (order, rest) => decode order rest

/-- The characters that bytes write. -/
def characters? (bytes : List UInt8) : Charset → Option (List Char)
  | utf8 marked =>
      let marks := marked && [0xEF, 0xBB, 0xBF].isPrefixOf bytes
      some (Utf8.characters none (if marks then bytes.drop 3 else bytes))
  | utf16 highFirst =>
      decodeOrdered? 2 (fun order bytes =>
        let (units, left) := pairs order bytes
        decodeUtf16 left units) highFirst bytes
  | utf32 highFirst => decodeOrdered? 4 decodeUtf32 highFirst bytes
  | ascii => some (bytes.map fun b => if b < 128 then .ofNat b.toNat else replacement)
  | latin => some (bytes.map fun b => .ofNat b.toNat)
  | page p =>
      let characters := (p.rows.flatMap String.toList).toArray
      some (bytes.map (characterOf characters))

/-- The text that bytes write. -/
def decode? (charset : Charset) (bytes : List UInt8) : Option String :=
  (charset.characters? bytes).map String.ofList

/-! ## Names -/

/-- The names of the character sets that are no code pages. -/
def namedSets : List (Charset × List String) :=
  [(utf8 false, ["utf_8", "cp65001", "u8", "utf", "utf8", "utf8_ucs2", "utf8_ucs4"]),
    (utf8 true, ["utf_8_sig"]),
    (utf16 none, ["utf_16", "u16", "utf16"]),
    (utf16 (some false), ["utf_16_le", "unicodelittleunmarked", "utf_16le"]),
    (utf16 (some true), ["utf_16_be", "unicodebigunmarked", "utf_16be"]),
    (utf32 none, ["utf_32", "u32", "utf32"]),
    (utf32 (some false), ["utf_32_le", "utf_32le"]),
    (utf32 (some true), ["utf_32_be", "utf_32be"]),
    (ascii, ["ascii", "646", "ansi_x3.4_1968", "ansi_x3.4_1986", "ansi_x3_4_1968", "cp367",
      "csascii", "ibm367", "iso646_us", "iso_646.irv_1991", "iso_ir_6", "us", "us_ascii"]),
    (latin, ["latin_1", "8859", "charmap", "cp819", "csisolatin1", "ibm819", "iso8859",
      "iso8859_1", "iso_8859_1", "iso_8859_1_1987", "iso_ir_100", "l1", "latin", "latin1"])]

/-- A name in lower case, in which one underscore stands for whatever parts the words; what is in front
of the first word is left out. -/
def normalName (name : String) : String :=
  let words := Chars.splitWhere (fun c => !(c.isAlphanum || c == '.')) name.toList
  Text.join "_" ((words.filter (!·.isEmpty)).map fun word => .ofList (word.map Char.toLower))

/-- The character set with a name: its own name, which comes first, or another one. -/
def ofNormalName? (isName : List String → Bool) : Option Charset :=
  match namedSets.find? fun (_, names) => isName names with
  | some (charset, _) => some charset
  | none => (codePages.find? fun page => isName page.names).map Charset.page

/-- The character set with a name. Points in a name can be written as underscores, but not if it is the
own name of the character set. -/
def ofName? (name : String) : Option Charset :=
  let name := normalName name
  (ofNormalName? (·.contains name)).or
    (ofNormalName? (·.tail.contains (Text.replaceAll "." "_" name)))

end Charset

end ServiceBindings
