import ServiceBindings.Text.Line

/-! # Templates

The two generated modules are put together from seven templates, which a user can keep in a directory
of files. A `Template` names one of them, with the name of its file (`Template.fileName`) and the
text that comes with the program (`Template.bundledText`).

The bundled text of a template stands for the **standard part**, and a text without markup stands for itself
(`TemplatePart.ofText?`); what any other text stands for is up to the engine that renders it. Of a template
text, only the source counts (`templateSource`): line ends are line feeds, and one at the very end is
dropped. -/

namespace ServiceBindings

/-- The parts that the generated modules are put together from. -/
inductive Template where
  /-- The head of the services module. -/
  | servicesHeader
  /-- The service functions. -/
  | servicesItems
  /-- The arguments of one service function. -/
  | functionArguments
  /-- The lines that hand parameters and body to a request. -/
  | requestData
  /-- The line that asks for binary data. -/
  | requestOptions
  /-- The head of the types module. -/
  | typesHeader
  /-- The namespaces of types. -/
  | typesItems
  deriving DecidableEq, Repr

namespace Template

/-- The name of a template's file. -/
def fileName : Template → String
  | servicesHeader => "services-header.ts.jinja"
  | servicesItems => "services-items.ts.jinja"
  | functionArguments => "services-item-args.ts.jinja"
  | requestData => "services-item-data.ts.jinja"
  | requestOptions => "services-item-res.ts.jinja"
  | typesHeader => "services-types-header.ts.jinja"
  | typesItems => "services-types-items.ts.jinja"

/-- The lines of the text that comes with the program. -/
def bundledLines : Template → List String
  | servicesHeader =>
      [
        "/* eslint-disable */",
        "// Generated by openapi-to-ts-services-generator. Do not edit by hand.",
        "import request from './request';",
        "\x7b% if type_imports %\x7d",
        "import type \x7b",
        "\x7b% for type_name in type_imports %\x7d",
        "  \x7b\x7b type_name \x7d\x7d,",
        "\x7b% endfor %\x7d",
        "\x7d from './\x7b\x7b types_import_path \x7d\x7d';",
        "\x7b% endif %\x7d",
        ""
      ]
  | servicesItems =>
      [
        "\x7b% for op in operations %\x7d",
        "/**",
        "\x7b% if op.summary %\x7d",
        " * \x7b\x7b op.summary | doc \x7d\x7d",
        "\x7b% endif %\x7d",
        "\x7b% if op.tags %\x7d",
        " * @tags \x7b\x7b op.tags | doc \x7d\x7d",
        "\x7b% endif %\x7d",
        " * @request \x7b\x7b op.method | upper \x7d\x7d \x7b\x7b op.path | doc \x7d\x7d",
        " */",
        "export const \x7b\x7b op.name \x7d\x7d = (\x7b% include \"services-item-args.ts.jinja\" %\x7d) =>",
        "  request<\x7b\x7b op.response_type \x7d\x7d>(\x7b",
        "    url: `\x7b\x7b op.request_path \x7d\x7d`,",
        "    method: '\x7b\x7b op.method \x7d\x7d',",
        "\x7b% include \"services-item-data.ts.jinja\" %\x7d",
        "\x7b% include \"services-item-res.ts.jinja\" %\x7d",
        "  \x7d);",
        "",
        "\x7b% endfor %\x7d"
      ]
  | functionArguments =>
      [
        "\x7b%- set call = namespace(args=[]) -%\x7d",
        "\x7b%- if op.is_param_path -%\x7d",
        "\x7b%- set call.args = call.args + ['id: ' ~ (op.params_type if op.has_params else 'string')] -%\x7d",
        "\x7b%- elif op.has_params -%\x7d",
        "\x7b%- set call.args = call.args + ['params: ' ~ op.params_type] -%\x7d",
        "\x7b%- endif -%\x7d",
        "\x7b%- if op.has_body -%\x7d",
        "\x7b%- set call.args = call.args + ['data: ' ~ op.body_type] -%\x7d",
        "\x7b%- endif -%\x7d",
        "\x7b\x7b call.args | join(', ') \x7d\x7d"
      ]
  | requestData =>
      [
        "\x7b% if op.has_params and not op.is_param_path %\x7d",
        "    params,",
        "\x7b% endif %\x7d",
        "\x7b% if op.has_body %\x7d",
        "    data,",
        "\x7b% endif %\x7d"
      ]
  | requestOptions =>
      [
        "\x7b% if op.is_blob %\x7d",
        "    responseType: 'blob',",
        "\x7b% endif %\x7d"
      ]
  | typesHeader =>
      [
        "/* eslint-disable */",
        "// Generated by openapi-to-ts-services-generator. Do not edit by hand.",
        ""
      ]
  | typesItems =>
      [
        "\x7b% for item in types %\x7d",
        "/**",
        "\x7b% if item.summary %\x7d",
        " * \x7b\x7b item.summary | doc \x7d\x7d",
        "\x7b% endif %\x7d",
        " * @request \x7b\x7b item.method | upper \x7d\x7d \x7b\x7b item.path | doc \x7d\x7d",
        " */",
        "export namespace \x7b\x7b item.namespace \x7d\x7d \x7b",
        "\x7b% if item.text %\x7d",
        "\x7b\x7b item.text | trim | indent(2, first=True) \x7d\x7d",
        "\x7b% endif %\x7d",
        "\x7d",
        "",
        "\x7b% endfor %\x7d"
      ]

/-- The text that comes with the program. -/
def bundledText (t : Template) : String :=
  .join (t.bundledLines.map fun line => line ++ "\n")

end Template

/-- The templates that a module is rendered from. -/
structure ModuleTemplates where
  /-- That of its head. -/
  head : Template
  /-- That of what comes below the head. -/
  items : Template
  /-- Those that are included. -/
  included : List Template

namespace ModuleTemplates

/-- The templates of the services module. -/
def services : ModuleTemplates :=
  ⟨.servicesHeader, .servicesItems, [.functionArguments, .requestData, .requestOptions]⟩

/-- The templates of the types module. -/
def types : ModuleTemplates := ⟨.typesHeader, .typesItems, []⟩

/-- All of them, in the order in which their files are looked for. -/
def all (m : ModuleTemplates) : List Template := m.head :: m.items :: m.included

end ModuleTemplates

/-- All templates. -/
def Template.all : List Template := ModuleTemplates.services.all ++ ModuleTemplates.types.all

/-- The characters of a template text that count: line ends are line feeds, and one at the very end
is dropped. -/
def templateSource (text : String) : List Char :=
  let cs := Chars.withLineFeeds text.toList
  if cs.getLast? = some '\n' then cs.dropLast else cs

/-- Whether a text has a mark that the template language gives a meaning. -/
def hasMarkup : List Char → Bool
  | '\x7b' :: c :: rest => c == '\x7b' || c == '%' || c == '#' || hasMarkup (c :: rest)
  | _ :: rest => hasMarkup rest
  | [] => false

/-- What a template text stands for. -/
inductive TemplatePart where
  /-- The standard part. -/
  | standard
  /-- A text that stands for itself. -/
  | verbatim (text : String)
  deriving DecidableEq, Repr

namespace TemplatePart

/-- What a template with the given text stands for, if it is the bundled one or has no markup. -/
def ofText? (t : Template) (text : String) : Option TemplatePart :=
  if templateSource text = templateSource t.bundledText then some .standard
  else if hasMarkup (templateSource text) then none
  else some (.verbatim (.ofList (templateSource text)))

/-- The text of a part, given what the standard part is. -/
def text (part : TemplatePart) (standard : String) : String :=
  match part with
  | .standard => standard
  | .verbatim text => text

@[simp] theorem text_standard (s : String) : text .standard s = s := rfl

@[simp] theorem text_verbatim (t s : String) : text (.verbatim t) s = t := rfl

/-- The bundled text stands for the standard part. -/
@[simp] theorem ofText?_bundledText (t : Template) : ofText? t t.bundledText = some .standard := by
  simp [ofText?]

end TemplatePart

/-- What each template stands for. -/
abbrev Templates := Template → TemplatePart

namespace Templates

/-- The standard parts alone. -/
def standard : Templates := fun _ => .standard

end Templates

end ServiceBindings
