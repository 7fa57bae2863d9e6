import ServiceBindings.Entries
import ServiceBindings.Yaml.Lexeme

/-! # The tokens of a YAML text

`Yaml.tokens` cuts a text into the tokens that its structure is made of. Indentation becomes tokens of
its own: a `blockSequence` or `blockMapping` opens where a deeper column begins, and a `blockEnd`
closes it where the column is left.

A key need not be marked: whether a scalar or a flow collection was a key is known only at the colon
after it. The place in front of it is therefore kept **open** (`Slot.candidate`), at most one for
each level of flow collections, and is filled when the colon comes; `Slot.tokens` closes the gaps. A
candidate lapses at the end of its line or after 1024 characters; one at the indentation of its block
must become a key.

`LexState` is what the lexer knows at a place, and `LexState.readToken` reads one token. Tokens are read when
they are asked for, so that a fault of the lexer shows only there: it stands in the sequence as a token of its
own (`Token.broken`), in front of the first place that was open when it came up. -/

namespace ServiceBindings

namespace Yaml

/-- A token. -/
inductive Token where
  /-- A directive in front of a document. -/
  | directive (d : Directive)
  /-- The mark of the beginning of a document. -/
  | documentStart
  /-- The mark of the end of a document. -/
  | documentEnd
  /-- The beginning of a sequence by indentation. -/
  | blockSequence
  /-- The beginning of a mapping by indentation. -/
  | blockMapping
  /-- The end of what indentation began. -/
  | blockEnd
  /-- An opening square bracket. -/
  | flowSequence
  /-- A closing square bracket. -/
  | flowSequenceEnd
  /-- An opening brace. -/
  | flowMapping
  /-- A closing brace. -/
  | flowMappingEnd
  /-- The dash in front of an item. -/
  | item
  /-- The comma between items or entries. -/
  | comma
  /-- The beginning of a key. -/
  | key
  /-- The colon in front of a value. -/
  | value
  /-- An alias. -/
  | alias (name : String)
  /-- An anchor. -/
  | anchor (name : String)
  /-- A tag. -/
  | tag (handle : Option String) (suffix : String)
  /-- A scalar; a plain one has no quotation marks and no indicator. -/
  | scalar (text : String) (plain : Bool)
  /-- There is no more token, because of a fault. -/
  | broken (fault : Fault)
  deriving DecidableEq, Repr

/-- A place in the sequence of tokens. -/
inductive Slot where
  /-- A token. -/
  | token (t : Token)
  /-- The place in front of what may turn out to be a key. -/
  | candidate (id : Nat)

/-- What may turn out to be a key. -/
structure Candidate where
  /-- The number of its place among the candidates. -/
  id : Nat
  /-- Whether it must become a key. -/
  required : Bool
  /-- Where it begins. -/
  start : Cursor

/-- What the lexer knows at a place. -/
structure LexState where
  /-- The place. -/
  cursor : Cursor
  /-- The number of flow collections around the place. -/
  flow : Nat := 0
  /-- The column of the innermost block, if there is one. -/
  indent : Option Nat := none
  /-- The columns of the blocks around it, the innermost first. -/
  outer : List (Option Nat) := []
  /-- Whether a key may begin here. -/
  keyAllowed : Bool := true
  /-- The candidates by level of flow collections. -/
  candidates : List (Nat × Candidate) := []
  /-- The places of the sequence of tokens, the last one first. -/
  slots : List Slot := []
  /-- The number of candidates so far. -/
  count : Nat := 0
  /-- The candidates that became keys, and whether a mapping begins with them. -/
  keys : List (Nat × Bool) := []

namespace LexState

/-- Append a token. -/
def push (s : LexState) (t : Token) : LexState := { s with slots := .token t :: s.slots }

/-- The column from which the contents of the innermost block are indented. -/
def contentColumn (s : LexState) : Nat := (s.indent.map (· + 1)).getD 0

/-- Drop a candidate of the current level, which must not be one that has to become a key. -/
def dropCandidate (s : LexState) : Except Fault LexState :=
  match s.candidates.lookup s.flow with
  | some candidate =>
      if candidate.required then .error .missingColon
      else .ok { s with candidates := s.candidates.filter fun entry => entry.1 ≠ s.flow }
  | none => .ok s

/-- What begins here may turn out to be a key. -/
def offerKey (s : LexState) : Except Fault LexState := do
  if s.keyAllowed then
    let s ← s.dropCandidate
    let required := s.flow == 0 && s.indent == some s.cursor.column
    return { s with
      candidates := Entries.insert s.flow ⟨s.count, required, s.cursor⟩ s.candidates
      slots := .candidate s.count :: s.slots
      count := s.count + 1 }
  else return s

/-- Whether a candidate has lapsed at a place. -/
def hasLapsed (place : Cursor) (candidate : Candidate) : Bool :=
  candidate.start.line != place.line || decide (candidate.start.index + 1024 < place.index)

/-- Drop the candidates that have lapsed. -/
def dropLapsed (s : LexState) : Except Fault LexState :=
  if s.candidates.any fun (_, candidate) => hasLapsed s.cursor candidate && candidate.required then
    .error .missingColon
  else
    .ok { s with candidates := s.candidates.filter fun entry => !hasLapsed s.cursor entry.2 }

/-- Close the blocks whose column is not reached, out of a list of blocks around the innermost one. -/
def closeBlocks (column : Option Nat) : Option Nat → List (Option Nat) → List Slot →
    Option Nat × List (Option Nat) × List Slot
  | indent, [], slots => (indent, [], slots)
  | indent, next :: outer, slots =>
      if indent.any fun i => column.all fun c => decide (c < i) then
        closeBlocks column next outer (.token .blockEnd :: slots)
      else (indent, next :: outer, slots)

/-- Close the blocks that a column leaves; without a column, all of them. Within flow collections
indentation does not count. -/
def unwind (s : LexState) (column : Option Nat) : LexState :=
  if s.flow ≠ 0 then s
  else
    let (indent, outer, slots) := closeBlocks column s.indent s.outer s.slots
    { s with indent, outer, slots }

/-- Whether a column is deeper than the innermost block. -/
def isDeeper (s : LexState) (column : Nat) : Bool := s.indent.all fun i => decide (i < column)

/-- Open a block at a column. -/
def openBlock (s : LexState) (column : Nat) : LexState :=
  { s with indent := some column, outer := s.indent :: s.outer }

/-- Open a block at the current column, unless it is open already. -/
def beginBlock (s : LexState) (t : Token) : LexState :=
  if s.isDeeper s.cursor.column then (s.openBlock s.cursor.column).push t else s

/-- Move past the spaces, comments and line ends in front of a token. At a line end outside flow
collections a key may begin. -/
def skipGap : Nat → LexState → LexState
  | 0, s => s
  | bound + 1, s =>
      let c := s.cursor.skipWhile (· == ' ')
      let c := if c.peek == some '#' then c.skipWhile (!isBreak ·) else c
      match c.takeBreak? with
      | some (_, after) =>
          skipGap bound { s with cursor := after, keyAllowed := s.keyAllowed || s.flow == 0 }
      | none => { s with cursor := c }

/-- Read the end of the text: all blocks end. -/
def finish (s : LexState) : Except Fault LexState := do
  let s := s.unwind none
  s.dropCandidate

/-- Read a directive. -/
def readDirective (s : LexState) : Except Fault LexState := do
  let s ← (s.unwind none).dropCandidate
  let (d, after) ← Yaml.readDirective s.cursor
  return { s with keyAllowed := false, cursor := after }.push (.directive d)

/-- Read the mark of the beginning or of the end of a document. -/
def readMark (s : LexState) (t : Token) : Except Fault LexState := do
  let s ← (s.unwind none).dropCandidate
  return { s with keyAllowed := false, cursor := s.cursor.skip 3 }.push t

/-- Read the opening bracket of a flow collection. -/
def openFlow (s : LexState) (t : Token) : Except Fault LexState := do
  let s ← s.offerKey
  return { s with flow := s.flow + 1, keyAllowed := true, cursor := s.cursor.next }.push t

/-- Read the closing bracket of a flow collection. -/
def closeFlow (s : LexState) (t : Token) : Except Fault LexState := do
  let s ← s.dropCandidate
  if s.flow = 0 then .error (.misplaced "a closing bracket")
  else return { s with flow := s.flow - 1, keyAllowed := false, cursor := s.cursor.next }.push t

/-- Read a comma. -/
def readComma (s : LexState) : Except Fault LexState := do
  let s ← s.dropCandidate
  return { s with keyAllowed := true, cursor := s.cursor.next }.push .comma

/-- Read the dash in front of an item. -/
def readItem (s : LexState) : Except Fault LexState := do
  let s ←
    if s.flow ≠ 0 then .ok s
    else if s.keyAllowed then .ok (s.beginBlock .blockSequence)
    else .error (.misplaced "a sequence entry")
  let s ← s.dropCandidate
  return { s with keyAllowed := true, cursor := s.cursor.next }.push .item

/-- Read the question mark in front of a key. -/
def readKey (s : LexState) : Except Fault LexState := do
  let s ←
    if s.flow ≠ 0 then .ok s
    else if s.keyAllowed then .ok (s.beginBlock .blockMapping)
    else .error (.misplaced "a mapping key")
  let s ← { s with keyAllowed := s.flow == 0 }.dropCandidate
  return { s with cursor := s.cursor.next }.push .key

/-- Read the colon in front of a value. A candidate of the current level becomes a key; otherwise the
key is empty. -/
def readValue (s : LexState) : Except Fault LexState := do
  let s ← match s.candidates.lookup s.flow with
    | some candidate =>
        let opens := s.flow == 0 && s.isDeeper candidate.start.column
        let s := { s with
          candidates := s.candidates.filter fun entry => entry.1 ≠ s.flow
          keys := (candidate.id, opens) :: s.keys
          keyAllowed := false }
        .ok (if opens then s.openBlock candidate.start.column else s)
    | none =>
        if s.flow ≠ 0 then .ok { s with keyAllowed := false }
        else if s.keyAllowed then .ok { s.beginBlock .blockMapping with keyAllowed := true }
        else .error (.misplaced "a mapping value")
  return { s with cursor := s.cursor.next }.push .value

/-- Read an alias or an anchor. -/
def readNamed (s : LexState) (token : String → Token) : Except Fault LexState := do
  let s ← s.offerKey
  let (name, after) ← readName s.cursor.next
  return { s with keyAllowed := false, cursor := after }.push (token name)

/-- Read a tag. -/
def readTag (s : LexState) : Except Fault LexState := do
  let s ← s.offerKey
  let (handle, suffix, after) ← Yaml.readTag s.cursor
  return { s with keyAllowed := false, cursor := after }.push (.tag handle suffix)

/-- Read a block scalar. -/
def readBlock (s : LexState) (folded : Bool) : Except Fault LexState := do
  let s ← { s with keyAllowed := true }.dropCandidate
  let (text, after) ← Yaml.readBlock folded (max s.contentColumn 1) s.cursor
  return { s with cursor := after }.push (.scalar text false)

/-- Read a quoted scalar. -/
def readQuoted (s : LexState) (double : Bool) : Except Fault LexState := do
  let s ← s.offerKey
  let (text, after) ← Yaml.readQuoted double s.cursor
  return { s with keyAllowed := false, cursor := after }.push (.scalar text false)

/-- Read a plain scalar. After one that ends with a line a key may begin. -/
def readPlain (s : LexState) : Except Fault LexState := do
  let s ← s.offerKey
  let (text, after, broken) := Yaml.readPlain (s.flow != 0) s.contentColumn s.cursor
  return { s with keyAllowed := broken, cursor := after }.push (.scalar text true)

/-- Whether a plain scalar can begin with a character, given the next one. -/
def beginsPlain (inFlow : Bool) (c : Char) (next : Option Char) : Bool :=
  !(isGap (some c) || "-?:,[]\x7b\x7d#&*!|>'\"%@`".toList.contains c) ||
    (!isGap next && (c == '-' || (!inFlow && (c == '?' || c == ':'))))

/-- Read the token that begins at the current place. -/
def readToken (s : LexState) (c : Char) : Except Fault LexState :=
  let next := s.cursor.peekAt 1
  let inFlow := s.flow != 0
  if c = '%' ∧ s.cursor.column = 0 then s.readDirective
  else if s.cursor.column = 0 ∧ s.cursor.atMark '-' then s.readMark .documentStart
  else if s.cursor.column = 0 ∧ s.cursor.atMark '.' then s.readMark .documentEnd
  else if c = '[' then s.openFlow .flowSequence
  else if c = '\x7b' then s.openFlow .flowMapping
  else if c = ']' then s.closeFlow .flowSequenceEnd
  else if c = '\x7d' then s.closeFlow .flowMappingEnd
  else if c = ',' then s.readComma
  else if c = '-' ∧ isGap next then s.readItem
  else if c = '?' ∧ (inFlow ∨ isGap next) then s.readKey
  else if c = ':' ∧ (inFlow ∨ isGap next) then s.readValue
  else if c = '*' then s.readNamed .alias
  else if c = '&' then s.readNamed .anchor
  else if c = '!' then s.readTag
  else if c = '|' ∧ !inFlow then s.readBlock false
  else if c = '>' ∧ !inFlow then s.readBlock true
  else if c = '\'' then s.readQuoted false
  else if c = '"' then s.readQuoted true
  else if beginsPlain inFlow c next then s.readPlain
  else .error (.noToken c)

/-- Read the next token after the gap in front of it, if the text goes on. -/
def readNext (bound : Nat) (s : LexState) : Except Fault (LexState × Bool) := do
  let s ← (skipGap bound s).dropLapsed
  let s := s.unwind (some s.cursor.column)
  match s.cursor.peek with
  | none => return (← s.finish, false)
  | some c => return (← s.readToken c, true)

/-- The places up to the first one that is still open. -/
def beforeOpen (s : LexState) : List Slot :=
  let opened := (s.candidates.filter fun entry => !hasLapsed s.cursor entry.2).map (·.2.id)
  s.slots.reverse.takeWhile fun
    | .token _ => true
    | .candidate id => !opened.contains id

/-- Read token after token: the places, and what the lexer knows at the end. Every token takes at least one
character, so that the number of characters bounds the number of tokens, and of the lines in front of each. -/
def run : Nat → LexState → List Slot × LexState
  | 0, s => (s.beforeOpen ++ [.token (.broken .unexpectedEnd)], s)
  | bound + 1, s =>
      match s.readNext (bound + 1) with
      | .error fault => (s.beforeOpen ++ [.token (.broken fault)], s)
      | .ok (next, true) => run bound next
      | .ok (next, false) => (next.slots.reverse, next)

end LexState

/-- The tokens of a place, given the candidates that became keys. -/
def Slot.tokens (keys : List (Nat × Bool)) : Slot → List Token
  | .token t => [t]
  | .candidate id =>
      match keys.lookup id with
      | some true => [.blockMapping, .key]
      | some false => [.key]
      | none => []

/-- The tokens of a text. A byte order mark at the beginning of the text is passed over. -/
def tokens (text : String) : Except Fault (List Token) := do
  let cs := text.toList
  match cs.find? (!isAllowed ·) with
  | some c => .error (.unprintable c)
  | none =>
      let start : Cursor := ⟨cs, 0, 0, 0⟩
      let start := if cs.head? == some '\ufeff' then start.next else start
      let (slots, s) := LexState.run (cs.length + 1) { cursor := start }
      return slots.flatMap (Slot.tokens s.keys)

end Yaml

end ServiceBindings
