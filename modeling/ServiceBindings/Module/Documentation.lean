import ServiceBindings.Operation.Basic
import ServiceBindings.Text.Blank
import ServiceBindings.TypeScript.Comment

/-! # Documentation blocks

A generated item stands below a documentation block: a line for its summary and one for its tags where
it has any, then the request that it is about. `Documentation.oneLine` makes a text safe to stand on
one line of the block: the mark that ends a comment is taken apart, and every run of white space
becomes a space. -/

namespace ServiceBindings

namespace Documentation

/-- The words of a text with one space between neighbours, where the mark that ends a comment is taken
apart. -/
def oneLineChars (text : List Char) : List Char :=
  Chars.join [' '] (Chars.words (TypeScript.neutralize text))

/-- A text on one line of a documentation block. -/
def oneLine (text : String) : String := .ofList (oneLineChars text.toList)

/-- A line of a block with a mark in front of the text; no line for the empty text. -/
def optionalLine (mark text : String) : String :=
  if text.isEmpty then "" else mark ++ oneLine text ++ "\n"

/-- The line that tells method and path. -/
def requestLine (method path : String) : String :=
  " * @request " ++ Text.upper method ++ " " ++ oneLine path ++ "\n"

/-- The block above a service function. -/
def ofFunction (f : ServiceFunction) : String :=
  "/**\n" ++ optionalLine " * " f.summary ++ optionalLine " * @tags " f.tags ++
    requestLine f.method f.path ++ " */\n"

/-- The block above a namespace of types. -/
def ofScope (s : TypeScope) : String :=
  "/**\n" ++ optionalLine " * " s.summary ++ requestLine s.method s.path ++ " */\n"

end Documentation

end ServiceBindings
