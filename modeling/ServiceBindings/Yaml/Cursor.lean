/-! # Places in a YAML text

A `Cursor` is a place in a text: what comes next, and line and column of the place. `Cursor.next` moves
past one character; a carriage return and the line feed after it end **one** line, and a byte order
mark takes no column.

`Yaml.Fault` says why a text is no YAML document. -/

namespace ServiceBindings

namespace Yaml

/-- Why a text is no YAML document, or holds no value. -/
inductive Fault where
  /-- A character that no document may hold. -/
  | unprintable (c : Char)
  /-- A character that begins no token. -/
  | noToken (c : Char)
  /-- The text ends within a token. -/
  | unexpectedEnd
  /-- A token is not written as it must be. -/
  | malformed (what : String)
  /-- A token stands where it must not. -/
  | misplaced (what : String)
  /-- A key without its colon. -/
  | missingColon
  /-- A tag handle that is not declared. -/
  | unknownHandle (handle : String)
  /-- An alias without its anchor. -/
  | unknownAnchor (name : String)
  /-- An anchor that is there already. -/
  | repeatedAnchor (name : String)
  /-- A tag without values, or one that does not fit its node. -/
  | unfitTag
  /-- A key that is a list or a mapping. -/
  | compositeKey
  /-- Something that is no mapping is merged into a mapping. -/
  | unmergeable
  /-- A text that has the form of a value, but there is no such value. -/
  | noSuchValue (text : String)
  /-- Anything else that stops a reader. -/
  | other (reason : String)
  deriving DecidableEq, Repr

namespace Fault

/-- The wording of a fault. -/
def message : Fault → String
  | unprintable _ => "special characters are not allowed"
  | noToken c => "found character " ++ c.toString ++ " that cannot start any token"
  | unexpectedEnd => "found unexpected end of text"
  | malformed what => "malformed " ++ what
  | misplaced what => what ++ " is not allowed here"
  | missingColon => "could not find expected ':'"
  | unknownHandle handle => "found undefined tag handle " ++ handle
  | unknownAnchor name => "found undefined alias " ++ name
  | repeatedAnchor name => "found duplicate anchor " ++ name
  | unfitTag => "a tag does not fit its node"
  | compositeKey => "a list or a mapping is no key"
  | unmergeable => "expected a mapping or list of mappings for merging"
  | noSuchValue text => "there is no such value: " ++ text
  | other reason => reason

/-- Whether a fault is one of the format. -/
def isReported : Fault → Bool
  | noSuchValue _ | other _ => false
  | _ => true

end Fault

/-- The characters that end a line. -/
def isBreak (c : Char) : Bool :=
  c == '\n' || c == '\r' || c == '\x85' || c == '\u2028' || c == '\u2029'

/-- Whether what comes next ends a line, or nothing does. -/
def endsLine (next : Option Char) : Bool := next.all isBreak

/-- Whether what comes next is a space or ends a line. -/
def endsWord (next : Option Char) : Bool := next.all fun c => c == ' ' || isBreak c

/-- Whether what comes next is a space or a tab or ends a line. -/
def isGap (next : Option Char) : Bool := next.all fun c => c == ' ' || c == '\t' || isBreak c

/-- The characters that a document may hold. -/
def isAllowed (c : Char) : Bool :=
  let n := c.toNat
  n == 9 || n == 10 || n == 13 || (32 ≤ n && n ≤ 126) || n == 0x85 ||
    (0xA0 ≤ n && n ≤ 0xD7FF) || (0xE000 ≤ n && n ≤ 0xFFFD) || 0x10000 ≤ n

/-- The characters of names: of anchors, of tag handles and of directives. -/
def isWordChar (c : Char) : Bool := c.isAlphanum || c == '-' || c == '_'

/-- A place in a text. -/
structure Cursor where
  /-- What comes next. -/
  rest : List Char
  /-- The number of characters before the place. -/
  index : Nat := 0
  /-- The number of lines before the place. -/
  line : Nat := 0
  /-- The column of the place. -/
  column : Nat := 0

namespace Cursor

/-- The next character. -/
def peek (c : Cursor) : Option Char := c.rest.head?

/-- The character some places further on. -/
def peekAt (c : Cursor) (n : Nat) : Option Char := c.rest[n]?

/-- Move past one character. -/
def next (c : Cursor) : Cursor :=
  match c.rest with
  | [] => c
  | ch :: rest =>
      if isBreak ch && !(ch == '\r' && rest.head? == some '\n') then
        ⟨rest, c.index + 1, c.line + 1, 0⟩
      else if ch = '\ufeff' then ⟨rest, c.index + 1, c.line, c.column⟩
      else ⟨rest, c.index + 1, c.line, c.column + 1⟩

/-- Move past some characters. -/
def skip (c : Cursor) : Nat → Cursor
  | 0 => c
  | n + 1 => c.next.skip n

/-- The characters from here on that satisfy `p`, and the place after them. -/
def takeWhile (c : Cursor) (p : Char → Bool) : List Char × Cursor :=
  let taken := c.rest.takeWhile p
  (taken, c.skip taken.length)

/-- The place after the characters that satisfy `p`. -/
def skipWhile (c : Cursor) (p : Char → Bool) : Cursor := (c.takeWhile p).2

/-- Move past the end of a line, if one comes next: what it is read as, and the place after it. -/
def takeBreak? (c : Cursor) : Option (Char × Cursor) :=
  match c.rest with
  | '\r' :: '\n' :: _ => some ('\n', c.skip 2)
  | ch :: _ =>
      if ch = '\u2028' ∨ ch = '\u2029' then some (ch, c.next)
      else if isBreak ch then some ('\n', c.next)
      else none
  | [] => none

/-- Whether a mark of three characters with a gap after it comes next. -/
def atMark (c : Cursor) (mark : Char) : Bool :=
  c.rest.take 3 == [mark, mark, mark] && isGap (c.peekAt 3)

/-- Whether the mark of the beginning or of the end of a document comes next. -/
def atDocumentMark (c : Cursor) : Bool := c.atMark '-' || c.atMark '.'

end Cursor

end Yaml

end ServiceBindings
