import ServiceBindings.TypeScript.Literal
import ServiceBindings.Operation.Naming

/-! # Operations

An operation of a document is one method of one path (`Operation`). It gives rise to a
`ServiceFunction`, which performs the request, and to a `TypeScope`, the namespace with the types of
its parameters, its body and its response. -/

namespace ServiceBindings

/-- One method of one path of a document. -/
structure Operation where
  /-- The path, as the document writes it. -/
  path : String
  /-- The method. -/
  method : String
  /-- The entries of the operation itself. -/
  entries : List (Scalar × Value)
  deriving Inhabited

/-- A function that performs one request. -/
structure ServiceFunction where
  /-- The namespace of the types of the operation. -/
  scope : String
  /-- One line of documentation, empty if there is none. -/
  summary : String
  /-- The path without the base of all paths. -/
  path : String
  /-- The tags, with commas between them. -/
  tags : String
  /-- The name of the function. -/
  name : String
  /-- Whether the path holds the placeholder of the identifier. -/
  hasId : Bool
  /-- Whether the operation has parameters. -/
  hasParams : Bool
  /-- The type of the parameters, or of the identifier. -/
  paramsType : String
  /-- Whether the operation has a body. -/
  hasBody : Bool
  /-- The type of the body. -/
  bodyType : String
  /-- Whether the operation declares its response. -/
  hasResponse : Bool
  /-- The type of the response. -/
  responseType : String
  /-- The method. -/
  method : String
  /-- The path as a template text. -/
  requestPath : String
  /-- Whether the response is binary data. -/
  isBlob : Bool
  deriving DecidableEq, Repr, Inhabited

/-- The namespace with the types of one operation. A text is empty where there is nothing to
declare. -/
structure TypeScope where
  /-- The name of the namespace. -/
  name : String
  /-- One line of documentation, empty if there is none. -/
  summary : String
  /-- The path without the base of all paths. -/
  path : String
  /-- The tags, with commas between them. -/
  tags : String
  /-- The method. -/
  method : String
  /-- The declaration of the parameters. -/
  paramsText : String
  /-- The declaration of the body. -/
  bodyText : String
  /-- The declaration of the response. -/
  responseText : String
  deriving DecidableEq, Repr, Inhabited

namespace TypeScope

/-- All declarations, one after the other. -/
def text (scope : TypeScope) : String := scope.paramsText ++ scope.bodyText ++ scope.responseText

end TypeScope

/-- The members that a namespace of types can have. -/
inductive ScopeMember where
  /-- The parameters. -/
  | params
  /-- The body. -/
  | body
  /-- The response. -/
  | response
  deriving DecidableEq, Repr

namespace ScopeMember

/-- The name of a member. -/
def name : ScopeMember → String
  | params => "IParams"
  | body => "IBody"
  | response => "IRes"

/-- A member, qualified by the namespace it is in. -/
def qualified (member : ScopeMember) (scope : String) : String := scope ++ "." ++ member.name

end ScopeMember

end ServiceBindings
