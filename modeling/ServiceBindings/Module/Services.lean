import ServiceBindings.Module.Documentation
import ServiceBindings.Module.Template

/-! # The services module

`servicesModule` is the text of the module that holds the service functions: a head that imports the
request function and the namespaces of types that are referred to (`typeImports`), then one function
for each operation. -/

namespace ServiceBindings

/-- Whether a type is a member of a namespace. -/
def isMemberOf (scope type : String) : Bool := Text.beginsWith (scope ++ ".") type

namespace ServiceFunction

/-- Whether a function refers to its namespace of types. -/
def refersToScope (f : ServiceFunction) : Bool :=
  [f.paramsType, f.bodyType, f.responseType].any (isMemberOf f.scope)

/-- The arguments of a function, each with its type: the identifier if the path holds it, otherwise
the parameters if there are any, and the body if there is one. -/
def arguments (f : ServiceFunction) : List String :=
  (if f.hasId then ["id: " ++ (if f.hasParams then f.paramsType else "string")]
    else if f.hasParams then ["params: " ++ f.paramsType] else []) ++
  (if f.hasBody then ["data: " ++ f.bodyType] else [])

/-- The lines that hand parameters and body to the request. -/
def dataLines (f : ServiceFunction) : String :=
  (if f.hasParams && !f.hasId then "    params,\n" else "") ++
    (if f.hasBody then "    data,\n" else "")

/-- The line that asks for binary data. -/
def optionLines (f : ServiceFunction) : String :=
  if f.isBlob then "    responseType: 'blob',\n" else ""

/-- The text of a function. -/
def text (templates : Templates) (f : ServiceFunction) : String :=
  Documentation.ofFunction f ++
    "export const " ++ f.name ++ " = (" ++
      (templates .functionArguments).text (Text.join ", " f.arguments) ++ ") =>\n" ++
    "  request<" ++ f.responseType ++ ">(\x7b\n" ++
    "    url: `" ++ f.requestPath ++ "`,\n" ++
    "    method: '" ++ f.method ++ "',\n" ++
    (templates .requestData).text f.dataLines ++
    (templates .requestOptions).text f.optionLines ++
    "  \x7d);\n\n"

end ServiceFunction

/-- The namespaces that functions refer to, in the order of first use. -/
def typeImports (functions : List ServiceFunction) : List String :=
  ((functions.filter (·.refersToScope)).map (·.scope)).eraseDups

/-- The name of a module: that of its file without the ending `.ts`. -/
def moduleName (fileName : String) : String :=
  let cs := fileName.toList
  if ".ts".toList.isSuffixOf cs then .ofList (cs.take (cs.length - 3)) else fileName

/-- The lines that import namespaces from the module of types; none if there is nothing to import. -/
def importLines (scopes : List String) (origin : String) : String :=
  if scopes.isEmpty then ""
  else
    "import type \x7b\n" ++ String.join (scopes.map fun scope => "  " ++ scope ++ ",\n") ++
      "\x7d from './" ++ origin ++ "';\n"

/-- The lines that every generated module begins with. -/
def banner : String :=
  "/* eslint-disable */\n" ++
    "// Generated by openapi-to-ts-services-generator. Do not edit by hand.\n"

/-- The head of the services module. -/
def servicesHead (scopes : List String) (origin : String) : String :=
  banner ++ "import request from './request';\n" ++ importLines scopes origin

/-- The text of the services module. -/
def servicesModule (templates : Templates) (typesFileName : String)
    (functions : List ServiceFunction) : String :=
  (templates .servicesHeader).text (servicesHead (typeImports functions) (moduleName typesFileName)) ++
    (templates .servicesItems).text (.join (functions.map (·.text templates)))

end ServiceBindings
