import ServiceBindings.Text.Split

/-! # Lines

* `isLineBreak` holds of the characters that end a line: line feed, vertical tab, form feed,
  carriage return, the three upper information separators, next line, and the Unicode line and
  paragraph separators. A carriage return and the line feed after it end **one** line.
* `Chars.lines` are the lines of a text without what ends them; a line end at the very end of the
  text opens no further line.
* `Text.indent` prepends a margin to the first line and to every line that is not empty.
* `Text.withLineFeeds` writes every carriage return, alone or before a line feed, as a line feed. -/

namespace ServiceBindings

/-- The characters that end a line. -/
def isLineBreak (c : Char) : Bool :=
  let n := c.toNat
  (10 ≤ n && n ≤ 13) || (28 ≤ n && n ≤ 30) || n == 0x85 || n == 0x2028 || n == 0x2029

namespace Chars

/-- Put a character in front of the first line, or open a first line with it. -/
def consLine (c : Char) : List (List Char) → List (List Char)
  | [] => [[c]]
  | line :: rest => (c :: line) :: rest

/-- The lines of a text, without what ends them. -/
def lines : List Char → List (List Char)
  | [] => []
  | '\r' :: '\n' :: rest => [] :: lines rest
  | c :: rest => if isLineBreak c then [] :: lines rest else consLine c (lines rest)

@[simp] theorem lines_nil : lines [] = [] := rfl

/-- A carriage return, alone or before a line feed, becomes a line feed. -/
def withLineFeeds : List Char → List Char
  | [] => []
  | '\r' :: '\n' :: rest => '\n' :: withLineFeeds rest
  | c :: rest => (if c = '\r' then '\n' else c) :: withLineFeeds rest

@[simp] theorem withLineFeeds_nil : withLineFeeds [] = [] := rfl

/-- Prepend a margin to the first line and to every other line that is not empty. -/
def indentLines (margin : List Char) : List (List Char) → List (List Char)
  | [] => []
  | first :: rest =>
      (margin ++ first) :: rest.map fun line => if line.isEmpty then line else margin ++ line

/-- The lines of a text under a margin, put together with line feeds. -/
def indent (margin cs : List Char) : List Char :=
  join ['\n'] (indentLines margin (lines (cs ++ ['\n'])))

end Chars

namespace Text

/-- The lines of a text, without what ends them. -/
def lines (text : String) : List String := (Chars.lines text.toList).map String.ofList

/-- The lines of a text under a margin, put together with line feeds. -/
def indent (margin text : String) : String := .ofList (Chars.indent margin.toList text.toList)

/-- A carriage return, alone or before a line feed, becomes a line feed. -/
def withLineFeeds (text : String) : String := .ofList (Chars.withLineFeeds text.toList)

end Text

end ServiceBindings
