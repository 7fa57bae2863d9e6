import ServiceBindings.Text.Split

/-! # Unions and intersections of type expressions

A type expression is a text. It is **compound** (`TypeScript.isCompound`) when the operator `|` or
`&` stands in it outside all brackets and string literals; within an array or an intersection a
compound expression needs parentheses (`TypeScript.operand`).

`TypeScript.union` and `TypeScript.intersection` join expressions without repeating one: no
expression at all is the unknown type, and a single one stands alone. -/

namespace ServiceBindings

namespace TypeScript

/-- The type of every value. -/
def unknownType : String := "unknown"

/-- Where a scan of a type expression stands. -/
inductive ScanState where
  /-- Outside string literals, inside the given number of brackets. -/
  | code (depth : Int)
  /-- Inside a string literal that ends with the given mark. -/
  | quoted (mark : Char) (depth : Int)
  /-- Inside a string literal, after a backslash. -/
  | escaped (mark : Char) (depth : Int)
  /-- An operator was found outside all brackets. -/
  | found
  deriving DecidableEq, Repr

namespace ScanState

/-- Pass one character. -/
def step : ScanState → Char → ScanState
  | .found, _ => .found
  | .escaped mark depth, _ => .quoted mark depth
  | .quoted mark depth, c =>
      if c = '\\' then .escaped mark depth
      else if c = mark then .code depth
      else .quoted mark depth
  | .code depth, c =>
      if c = '"' ∨ c = '\'' then .quoted c depth
      else if c ∈ ['\x7b', '[', '(', '<'] then .code (depth + 1)
      else if c ∈ ['\x7d', ']', ')', '>'] then .code (depth - 1)
      else if (c = '|' ∨ c = '&') ∧ depth = 0 then .found
      else .code depth

end ScanState

/-- Where a scan stands after some characters. -/
def scan (state : ScanState) (cs : List Char) : ScanState := cs.foldl ScanState.step state

@[simp] theorem scan_nil (state : ScanState) : scan state [] = state := rfl

@[simp] theorem scan_cons (state : ScanState) (c : Char) (cs : List Char) :
    scan state (c :: cs) = scan (state.step c) cs := rfl

/-- A scan of two texts one after the other. -/
@[simp] theorem scan_append (state : ScanState) (cs ds : List Char) :
    scan state (cs ++ ds) = scan (scan state cs) ds := List.foldl_append

/-- Whether an operator stands in an expression outside all brackets and string literals. -/
def isCompound (expression : String) : Bool :=
  decide (scan (.code 0) expression.toList = .found)

/-- An expression in a place where an operator would bind to its surroundings. -/
def operand (expression : String) : String :=
  if isCompound expression then "(" ++ expression ++ ")" else expression

/-- The expressions without repetitions, in the order of first occurrence. -/
def distinct (expressions : List String) : List String := expressions.eraseDups

/-- The union of expressions. -/
def union (expressions : List String) : String :=
  match distinct expressions with
  | [] => unknownType
  | members => Text.join " | " members

/-- The intersection of expressions. -/
def intersection (expressions : List String) : String :=
  match distinct expressions with
  | [] => unknownType
  | [expression] => expression
  | members => Text.join " & " (members.map operand)

end TypeScript

end ServiceBindings
