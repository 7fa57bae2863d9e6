import ServiceBindings.Decimal.Reading
import ServiceBindings.Text.Surrogate
import ServiceBindings.Yaml.Cursor

/-! # Words and scalars of a YAML text

How single lexemes are read from the place where they begin. Each reader gives what it has read and the
place after it:

* `readPlain`: a scalar without quotation marks, which ends at a colon or comment that belongs to
  the structure, or where the indentation ends;
* `readQuoted`: a scalar between single or double quotation marks, the latter with escapes;
* `readBlock`: a literal or folded scalar below its indicator;
* `readName`, `readTag`, `readDirective`: the other words.

Lines within a scalar are **folded**: one line end is read as a space, more than one as the line ends
after the first. A reader that goes from line to line is bounded by the number of characters that are
left, since every line takes at least one. -/

namespace ServiceBindings

namespace Yaml

/-- What a directive declares. -/
inductive Directive where
  /-- The version of the format. -/
  | version (major : Nat)
  /-- What a tag handle stands for. -/
  | handle (name start : String)
  /-- Anything else, which has no meaning. -/
  | other
  deriving DecidableEq, Repr

/-- What folding makes of a line end and of the line ends of the empty lines after it. -/
def foldBreaks (first : Char) (others : List Char) : List Char :=
  if first ≠ '\n' then first :: others
  else if others.isEmpty then [' '] else others

/-! ## Plain scalars -/

/-- The number of characters until a plain scalar is interrupted. -/
def plainLength (inFlow : Bool) : List Char → Nat
  | [] => 0
  | c :: rest =>
      let ends :=
        c == ' ' || c == '\t' || isBreak c ||
          (c == ':' && (isGap rest.head? ||
            (inFlow && rest.head?.any fun d => [',', '[', ']', '\x7b', '\x7d'].contains d))) ||
          (inFlow && [',', '?', '[', ']', '\x7b', '\x7d'].contains c)
      if ends then 0 else plainLength inFlow rest + 1

/-- The line ends and spaces after a line of a plain scalar, up to a document mark: the line ends, the
place after them, and whether a document mark stopped the reader. -/
def plainBreaks : Nat → Cursor → List Char → List Char × Cursor × Bool
  | 0, c, breaks => (breaks.reverse, c, false)
  | bound + 1, c, breaks =>
      if c.peek == some ' ' then plainBreaks bound c.next breaks
      else
        match c.takeBreak? with
        | some (b, after) =>
            if after.atDocumentMark then ((b :: breaks).reverse, after, true)
            else plainBreaks bound after (b :: breaks)
        | none => (breaks.reverse, c, false)

/-- What stands between two words of a plain scalar, with the place after it and whether a line end is
part of it; nothing where the scalar ends. -/
def plainGap (c : Cursor) : List Char × Cursor × Bool :=
  let (spaces, c) := c.takeWhile (· == ' ')
  match c.takeBreak? with
  | some (first, after) =>
      if after.atDocumentMark then ([], after, true)
      else
        let (others, last, stopped) := plainBreaks (after.rest.length + 1) after []
        if stopped then ([], last, true) else (foldBreaks first others, last, true)
  | none => (spaces, c, false)

/-- Read a plain scalar word by word: its characters in reverse order, the place after it, and whether
a line end was passed after the last word. -/
def readPlainFrom (inFlow : Bool) (indent : Nat) :
    Nat → Cursor → List Char → List Char → Bool → List Char × Cursor × Bool
  | 0, c, done, _, broken => (done, c, broken)
  | bound + 1, c, done, gap, broken =>
      let length := if c.peek == some '#' then 0 else plainLength inFlow c.rest
      if length = 0 then (done, c, broken)
      else
        let done := (c.rest.take length).reverse ++ gap.reverse ++ done
        let (gap, c, broken) := plainGap (c.skip length)
        if gap.isEmpty || c.peek == some '#' || (!inFlow && decide (c.column < indent)) then
          (done, c, broken)
        else readPlainFrom inFlow indent bound c done gap broken

/-- Read a plain scalar: its text, the place after it, and whether a line end was passed. -/
def readPlain (inFlow : Bool) (indent : Nat) (c : Cursor) : String × Cursor × Bool :=
  let (done, after, broken) := readPlainFrom inFlow indent (c.rest.length + 1) c [] [] false
  (.ofList done.reverse, after, broken)

/-! ## Quoted scalars -/

/-- The character that a letter after a backslash stands for. -/
def escaped? (c : Char) : Option Char :=
  match c with
  | '0' => some '\x00'
  | 'a' => some '\x07'
  | 'b' => some '\x08'
  | 't' => some '\t'
  | '\t' => some '\t'
  | 'n' => some '\n'
  | 'v' => some '\x0b'
  | 'f' => some '\x0c'
  | 'r' => some '\r'
  | 'e' => some '\x1b'
  | ' ' => some ' '
  | '"' => some '"'
  | '\\' => some '\\'
  | '/' => some '/'
  | 'N' => some '\x85'
  | '_' => some '\xa0'
  | 'L' => some '\u2028'
  | 'P' => some '\u2029'
  | _ => none

/-- The number of hexadecimal digits after a letter that introduces a character number. -/
def escapeWidth? (c : Char) : Option Nat :=
  match c with
  | 'x' => some 2
  | 'u' => some 4
  | 'U' => some 8
  | _ => none

/-- The line ends of empty lines within a quoted scalar, in order, and the place after them and after
the blanks of the next line. -/
def quotedBreaks : Nat → Cursor → List Char → Except Fault (List Char × Cursor)
  | 0, c, breaks => .ok (breaks.reverse, c)
  | bound + 1, c, breaks =>
      if c.atDocumentMark then .error (.misplaced "a document mark")
      else
        let c := c.skipWhile fun ch => ch == ' ' || ch == '\t'
        match c.takeBreak? with
        | some (b, after) => quotedBreaks bound after (b :: breaks)
        | none => .ok (breaks.reverse, c)

/-- Read an escape after its backslash: what it stands for, and the place after it. -/
def readEscape (c : Cursor) : Except Fault (List Char × Cursor) :=
  match c.peek with
  | none => .error .unexpectedEnd
  | some ch =>
      match escaped? ch, escapeWidth? ch with
      | some e, _ => .ok ([e], c.next)
      | none, some width =>
          let digits := (c.rest.drop 1).take width
          match natOfDigits? 16 digits with
          | some n =>
              if digits.length < width then .error (.malformed "escape")
              else if 0x110000 ≤ n then .error (.noSuchValue (.ofList digits))
              else
                let e := if isSurrogate n then SurrogateBlock.standard.char n else Char.ofNat n
                .ok ([e], c.skip (width + 1))
          | none => .error (.malformed "escape")
      | none, none =>
          match c.takeBreak? with
          | some (_, after) => quotedBreaks (after.rest.length + 1) after []
          | none => .error (.malformed "escape")

/-- What stands between two words of a quoted scalar. -/
def quotedGap (c : Cursor) : Except Fault (List Char × Cursor) :=
  let (blanks, c) := c.takeWhile fun ch => ch == ' ' || ch == '\t'
  match c.takeBreak? with
  | some (first, after) =>
      match quotedBreaks (after.rest.length + 1) after [] with
      | .ok (others, last) => .ok (foldBreaks first others, last)
      | .error e => .error e
  | none => if c.rest.isEmpty then .error .unexpectedEnd else .ok (blanks, c)

/-- Read a quoted scalar after its opening mark: its characters in reverse order, and the place after
its closing mark. -/
def readQuotedFrom (double : Bool) : Nat → Cursor → List Char → Except Fault (List Char × Cursor)
  | 0, _, _ => .error .unexpectedEnd
  | bound + 1, c, done =>
      match c.peek with
      | none => .error .unexpectedEnd
      | some ch =>
          if ch == '\'' && !double then
            if c.peekAt 1 == some '\'' then readQuotedFrom double bound (c.skip 2) ('\'' :: done)
            else .ok (done, c.next)
          else if ch == '"' && double then .ok (done, c.next)
          else if ch == '\\' && double then
            match readEscape c.next with
            | .ok (cs, after) => readQuotedFrom double bound after (cs.reverse ++ done)
            | .error e => .error e
          else if isGap (some ch) then
            match quotedGap c with
            | .ok (cs, after) => readQuotedFrom double bound after (cs.reverse ++ done)
            | .error e => .error e
          else readQuotedFrom double bound c.next (ch :: done)

/-- Read a quoted scalar from its opening mark on. -/
def readQuoted (double : Bool) (c : Cursor) : Except Fault (String × Cursor) :=
  (readQuotedFrom double (c.rest.length + 1) c.next []).map fun (done, after) =>
    (.ofList done.reverse, after)

/-! ## Block scalars -/

/-- How the line ends at the end of a block scalar are treated. -/
inductive Chomping where
  /-- One is kept. -/
  | clip
  /-- None is kept. -/
  | strip
  /-- All are kept. -/
  | keep
  deriving DecidableEq, Repr

/-- The treatment that an indicator asks for. -/
def chomping? (next : Option Char) : Option Chomping :=
  match next with
  | some '+' => some .keep
  | some '-' => some .strip
  | _ => none

/-- Read the indentation indicator of a block scalar, if it has one. -/
def readIncrement (c : Cursor) : Except Fault (Option Nat × Cursor) :=
  match c.peek with
  | some ch =>
      if ch.isDigit then
        if ch = '0' then .error (.malformed "indentation indicator")
        else .ok (digitValue? ch, c.next)
      else .ok (none, c)
  | none => .ok (none, c)

/-- Read the indicators of a block scalar after its first character, in either order, and the rest of
their line. -/
def readBlockHead (c : Cursor) : Except Fault (Chomping × Option Nat × Cursor) := do
  let (chomping, increment, c) ← match chomping? c.peek with
    | some chomping => do
        let (increment, c) ← readIncrement c.next
        .ok (chomping, increment, c)
    | none => do
        let (increment, c) ← readIncrement c
        match increment, chomping? c.peek with
        | some _, some chomping => .ok (chomping, increment, c.next)
        | _, _ => .ok (Chomping.clip, increment, c)
  if !endsWord c.peek then .error (.malformed "block scalar indicator")
  else
    let c := c.skipWhile (· == ' ')
    let c := if c.peek == some '#' then c.skipWhile (!isBreak ·) else c
    if !endsLine c.peek then .error (.malformed "block scalar indicator")
    else
      .ok (chomping, increment, match c.takeBreak? with
        | some (_, after) => after
        | none => c)

/-- The empty lines before the first line of a block scalar without indentation indicator: their line
ends, the largest column in them, and the place after them. -/
def blockStart : Nat → Cursor → List Char → Nat → List Char × Nat × Cursor
  | 0, c, breaks, column => (breaks.reverse, column, c)
  | bound + 1, c, breaks, column =>
      match c.takeBreak? with
      | some (b, after) => blockStart bound after (b :: breaks) column
      | none =>
          if c.peek == some ' ' then blockStart bound c.next breaks (max column c.next.column)
          else (breaks.reverse, column, c)

/-- The place after at most the indentation of a block scalar. -/
def skipIndent (indent : Nat) (c : Cursor) : Cursor :=
  c.skip (min (indent - c.column) (c.rest.takeWhile (· == ' ')).length)

/-- The line ends of empty lines in a block scalar, and the place after them. -/
def blockBreaks (indent : Nat) : Nat → Cursor → List Char → List Char × Cursor
  | 0, c, breaks => (breaks.reverse, c)
  | bound + 1, c, breaks =>
      let c := skipIndent indent c
      match c.takeBreak? with
      | some (b, after) => blockBreaks indent bound after (b :: breaks)
      | none => (breaks.reverse, c)

/-- Read the lines of a block scalar: its characters in reverse order, the line end of the last line,
the line ends after that, and the place after the scalar. -/
def blockLines (folded : Bool) (indent : Nat) :
    Nat → Cursor → List Char → List Char → List Char → List Char × List Char × List Char × Cursor
  | 0, c, done, lineEnd, breaks => (done, lineEnd, breaks, c)
  | bound + 1, c, done, lineEnd, breaks =>
      if c.column = indent ∧ !c.rest.isEmpty then
        let done := breaks.reverse ++ done
        let atText := !(c.peek == some ' ' || c.peek == some '\t')
        let (line, c) := c.takeWhile (!isBreak ·)
        let done := line.reverse ++ done
        let (lineEnd, c) := match c.takeBreak? with
          | some (b, after) => ([b], after)
          | none => ([], c)
        let (breaks, c) := blockBreaks indent (c.rest.length + 1) c []
        if c.column = indent ∧ !c.rest.isEmpty then
          let nextAtText := !(c.peek == some ' ' || c.peek == some '\t')
          if folded && lineEnd == ['\n'] && atText && nextAtText then
            blockLines folded indent bound c (if breaks.isEmpty then ' ' :: done else done) lineEnd
              breaks
          else blockLines folded indent bound c (lineEnd ++ done) lineEnd breaks
        else (done, lineEnd, breaks, c)
      else (done, lineEnd, breaks, c)

/-- Read a block scalar from its indicator on, where its lines are indented by at least
`leastIndent`. -/
def readBlock (folded : Bool) (leastIndent : Nat) (c : Cursor) : Except Fault (String × Cursor) := do
  let (chomping, increment, c) ← readBlockHead c.next
  let bound := c.rest.length + 1
  let (breaks, indent, c) := match increment with
    | none =>
        let (breaks, column, c) := blockStart bound c [] 0
        (breaks, max leastIndent column, c)
    | some n =>
        let indent := leastIndent + n - 1
        let (breaks, c) := blockBreaks indent bound c []
        (breaks, indent, c)
  let (done, lineEnd, breaks, c) := blockLines folded indent bound c [] [] breaks
  let text := done.reverse ++ match chomping with
    | .clip => lineEnd
    | .strip => []
    | .keep => lineEnd ++ breaks
  return (.ofList text, c)

/-! ## Names, tags and directives -/

/-- Read the name of an anchor or of an alias after its indicator. -/
def readName (c : Cursor) : Except Fault (String × Cursor) :=
  let (name, c) := c.takeWhile isWordChar
  if name.isEmpty then .error (.malformed "anchor")
  else if isGap c.peek || c.peek.any fun ch => "?:,]\x7d%@`".toList.contains ch then
    .ok (.ofList name, c)
  else .error (.malformed "anchor")

/-- The characters of a tag, besides the escapes. -/
def isTagChar (c : Char) : Bool := c.isAlphanum || "-;/?:@&=+$,_.!~*'()[]".toList.contains c

/-- The bytes that escapes in a tag write, and the place after them. -/
def tagBytes : Nat → Cursor → List UInt8 → Except Fault (List UInt8 × Cursor)
  | 0, c, bytes => .ok (bytes.reverse, c)
  | bound + 1, c, bytes =>
      if c.peek == some '%' then
        let digits := (c.rest.drop 1).take 2
        match natOfDigits? 16 digits with
        | some n =>
            if digits.length < 2 then .error (.malformed "tag")
            else tagBytes bound (c.skip 3) (n.toUInt8 :: bytes)
        | none => .error (.malformed "tag")
      else .ok (bytes.reverse, c)

/-- Read the characters of a tag: in reverse order, and the place after them. -/
def readTagCharsFrom : Nat → Cursor → List Char → Except Fault (List Char × Cursor)
  | 0, c, done => .ok (done, c)
  | bound + 1, c, done =>
      match c.peek with
      | some ch =>
          if isTagChar ch then readTagCharsFrom bound c.next (ch :: done)
          else if ch = '%' then
            match tagBytes (c.rest.length + 1) c [] with
            | .ok (bytes, after) =>
                match String.fromUTF8? ⟨bytes.toArray⟩ with
                | some text => readTagCharsFrom bound after (text.toList.reverse ++ done)
                | none => .error (.malformed "tag")
            | .error e => .error e
          else .ok (done, c)
      | none => .ok (done, c)

/-- Read the characters of a tag, at least one. -/
def readTagChars (c : Cursor) : Except Fault (String × Cursor) :=
  match readTagCharsFrom (c.rest.length + 1) c [] with
  | .ok (done, after) =>
      if done.isEmpty then .error (.malformed "tag") else .ok (.ofList done.reverse, after)
  | .error e => .error e

/-- Read a tag handle: an exclamation mark, and a word with another exclamation mark after it unless a
space follows. -/
def readHandle (c : Cursor) : Except Fault (String × Cursor) :=
  if c.peek ≠ some '!' then .error (.malformed "tag handle")
  else if c.peekAt 1 == some ' ' then .ok ("!", c.next)
  else
    let (name, after) := c.next.takeWhile isWordChar
    if after.peek == some '!' then .ok ("!" ++ String.ofList name ++ "!", after.next)
    else .error (.malformed "tag handle")

/-- Read a tag: its handle if it has one, and the rest. -/
def readTag (c : Cursor) : Except Fault (Option String × String × Cursor) := do
  let (handle, suffix, c) ←
    if c.peekAt 1 == some '<' then do
      let (text, after) ← readTagChars (c.skip 2)
      if after.peek == some '>' then .ok (none, text, after.next) else .error (.malformed "tag")
    else if isGap (c.peekAt 1) then .ok (none, "!", c.next)
    else
      let word := c.next.rest.takeWhile fun ch => !endsWord (some ch)
      if word.contains '!' then do
        let (handle, after) ← readHandle c
        let (text, after) ← readTagChars after
        .ok (some handle, text, after)
      else do
        let (text, after) ← readTagChars c.next
        .ok (some "!", text, after)
  if endsWord c.peek then .ok (handle, suffix, c) else .error (.malformed "tag")

/-- Read the number of a version. -/
def readNumber (c : Cursor) : Except Fault (Nat × Cursor) :=
  let (digits, c) := c.takeWhile Char.isDigit
  match natOfDigits? 10 digits with
  | some n => .ok (n, c)
  | none => .error (.malformed "directive")

/-- Read a directive from its indicator on, and the rest of its line. -/
def readDirective (c : Cursor) : Except Fault (Directive × Cursor) := do
  let (name, c) := c.next.takeWhile isWordChar
  if name.isEmpty ∨ !endsWord c.peek then .error (.malformed "directive")
  else
    let (directive, c) ←
      if name = "YAML".toList then do
        let (major, c) ← readNumber (c.skipWhile (· == ' '))
        if c.peek ≠ some '.' then .error (.malformed "directive")
        else
          let (_, c) ← readNumber c.next
          if endsWord c.peek then .ok (Directive.version major, c)
          else .error (.malformed "directive")
      else if name = "TAG".toList then do
        let (handle, c) ← readHandle (c.skipWhile (· == ' '))
        if c.peek ≠ some ' ' then .error (.malformed "directive")
        else
          let (start, c) ← readTagChars (c.skipWhile (· == ' '))
          if endsWord c.peek then .ok (Directive.handle handle start, c)
          else .error (.malformed "directive")
      else .ok (Directive.other, c.skipWhile (!isBreak ·))
    let c := c.skipWhile (· == ' ')
    let c := if c.peek == some '#' then c.skipWhile (!isBreak ·) else c
    if endsLine c.peek then
      .ok (directive, match c.takeBreak? with
        | some (_, after) => after
        | none => c)
    else .error (.malformed "directive")

end Yaml

end ServiceBindings
