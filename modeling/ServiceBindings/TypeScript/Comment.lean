import ServiceBindings.Text.Blank
import ServiceBindings.Text.Line
import ServiceBindings.Text.Replace

/-! # Documentation comments

`TypeScript.comment` writes a text as a documentation comment under a margin. One line stands between
the marks of the comment, several lines stand below each other, each behind a star and without white
space at its end. The end mark of a comment cannot arise from the text: a slash after a star gets a
backslash in front (`TypeScript.neutralize`). -/

namespace ServiceBindings

namespace TypeScript

/-- Put a backslash between a star and a slash. -/
def neutralize (text : List Char) : List Char :=
  Chars.replaceAll ['*', '/'] ['*', '\\', '/'] text

/-- The lines of a comment text. -/
def commentLines (text : String) : List (List Char) :=
  Chars.lines (neutralize (Chars.strip text.toList))

/-- One line among several. -/
def starredLine (margin line : List Char) : List Char :=
  Chars.stripRight (margin ++ " * ".toList ++ line) ++ ['\n']

/-- A text as a documentation comment under a margin; the empty text has no comment. -/
def comment (text margin : String) : String :=
  if text.isEmpty then ""
  else
    match commentLines text with
    | [line] => margin ++ "/** " ++ String.ofList line ++ " */\n"
    | lines =>
        margin ++ "/**\n" ++ String.ofList (lines.flatMap (starredLine margin.toList)) ++ margin ++
          " */\n"

end TypeScript

end ServiceBindings
