import ServiceBindings.Text.Capital
import ServiceBindings.Text.Replace
import ServiceBindings.Text.Split

/-! # Names of operations

How the path and the method of an operation become names:

* `Naming.pascal` joins the segments of a path, each with a capital first letter;
* `Naming.dropPlaceholder` drops what follows the first brace on its line;
* `Naming.scopeName` names the namespace of types and `Naming.functionName` the service function;
* `Naming.requestPath` is the path as a template text in which the placeholder of the identifier is
  interpolated;
* `Naming.stripBase` removes the base of all paths. -/

namespace ServiceBindings

namespace Naming

/-- The characters that separate the segments of a path. -/
def isSeparator (c : Char) : Bool := c == '/' || c == '-'

/-- The segments of a path joined, each with a capital first letter. -/
def pascalChars (path : List Char) : List Char :=
  ((Chars.splitWhere isSeparator path).filter (!·.isEmpty)).flatMap Chars.capitalize

/-- The segments of a path joined, each with a capital first letter. -/
def pascal (path : String) : String := .ofList (pascalChars path.toList)

/-- A text without its first opening brace and what follows that on its line. -/
def dropPlaceholderChars (text : List Char) : List Char :=
  text.takeWhile (· != '\x7b') ++ (text.dropWhile (· != '\x7b')).dropWhile (· != '\n')

/-- A text without its first opening brace and what follows that on its line. -/
def dropPlaceholder (text : String) : String := .ofList (dropPlaceholderChars text.toList)

/-- The placeholder of the identifier in a path. -/
def idPlaceholder : String := "\x7bid\x7d"

/-- The interpolation of the identifier in a template text. -/
def idInterpolation : String := "$\x7bid\x7d"

/-- Whether a path holds the placeholder of the identifier. -/
def hasId (path : String) : Bool := Text.occurs idPlaceholder path

/-- The name of the namespace that holds the types of an operation. -/
def scopeName (method path : String) : String :=
  "NS" ++ pascal method ++ dropPlaceholder (pascal path)

/-- The name of the service function of an operation. -/
def functionName (method path : String) : String := method ++ dropPlaceholder (pascal path)

/-- The path as a template text: the placeholder of the identifier is interpolated. -/
def requestPath (path : String) : String := Text.replaceAll idPlaceholder idInterpolation path

/-- A path without the first occurrence of the base of all paths. -/
def stripBase (base path : String) : String :=
  if base.isEmpty then path else Text.replaceFirst base "" path

end Naming

end ServiceBindings
