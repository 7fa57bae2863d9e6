import ServiceBindings.Module.Types

/-! # Template engines

The templates of a directory are rendered by a `TemplateEngine`: from the files of the directory, the template
to render, and the `RenderContext` that is handed to it. What an engine makes of a template is its own matter;
it may fail.

`TemplateEngine.plain` renders the templates that come with the program and those without markup, and refuses
any other. -/

namespace ServiceBindings

/-- What is handed to a template. -/
inductive RenderContext where
  /-- For the services module: the functions, the namespaces of types to import, and the module to import them
  from. -/
  | services (functions : List ServiceFunction) (imports : List String) (origin : String)
  /-- For the types module: the namespaces of types. -/
  | types (scopes : List TypeScope)
  deriving DecidableEq, Repr

/-- Why a template is not rendered. -/
inductive RenderFault where
  /-- A template file is no text. -/
  | undecodable
  /-- The engine fails. -/
  | failed (reason : String)
  deriving DecidableEq, Repr

namespace RenderFault

/-- The wording of a fault. -/
def message : RenderFault → String
  | undecodable => "a template is not encoded in UTF-8"
  | failed reason => reason

end RenderFault

/-- The files of a template directory: the bytes under each name, if they can be read. -/
abbrev TemplateFiles := String → Option ByteArray

/-- What renders a template of a directory. -/
abbrev TemplateEngine := TemplateFiles → Template → RenderContext → Except RenderFault String

namespace TemplateFiles

/-- The templates are those that come with the program. -/
def IsBundled (files : TemplateFiles) : Prop := ∀ t : Template, files t.fileName = some t.bundledText.toUTF8

/-- What a template stands for. -/
def part (files : TemplateFiles) (t : Template) : Except RenderFault TemplatePart :=
  match files t.fileName with
  | none => .error (.failed (t.fileName ++ " is missing"))
  | some bytes =>
      match String.fromUTF8? bytes with
      | none => .error .undecodable
      | some text =>
          match TemplatePart.ofText? t text with
          | some part => .ok part
          | none => .error (.failed (t.fileName ++ " has markup of its own"))

/-- What templates stand for, one after the other, and the others as before. -/
def parts (files : TemplateFiles) : List Template → Templates → Except RenderFault Templates
  | [], templates => .ok templates
  | t :: rest, templates => do
      let part ← files.part t
      parts files rest fun other => if other = t then part else templates other

/-- A template that comes with the program stands for the standard part. -/
theorem IsBundled.part_eq {files : TemplateFiles} (h : files.IsBundled) (t : Template) :
    files.part t = .ok .standard := by
  have hdecode : String.fromUTF8? t.bundledText.toUTF8 = some t.bundledText :=
    dif_pos t.bundledText.isValidUTF8
  simp only [part, h t, hdecode, TemplatePart.ofText?_bundledText]

/-- Templates that come with the program stand for the standard parts. -/
theorem IsBundled.parts_eq {files : TemplateFiles} (h : files.IsBundled) (wanted : List Template) :
    files.parts wanted .standard = .ok .standard := by
  induction wanted with
  | nil => rfl
  | cons t rest ih =>
      have hsame : (fun other => if other = t then TemplatePart.standard else Templates.standard other) =
          Templates.standard := funext fun other => ite_self _
      rw [parts, h.part_eq]
      show files.parts rest _ = _
      rw [hsame, ih]

end TemplateFiles

/-- **An engine renders the templates that come with the program** as the modules are put together from the
standard parts. -/
structure RendersBundled (engine : TemplateEngine) : Prop where
  /-- The head of the services module. -/
  servicesHeader {files : TemplateFiles} (hfiles : files.IsBundled) (functions : List ServiceFunction)
    (imports : List String) (origin : String) :
    engine files .servicesHeader (.services functions imports origin) = .ok (servicesHead imports origin)
  /-- The service functions. -/
  servicesItems {files : TemplateFiles} (hfiles : files.IsBundled) (functions : List ServiceFunction)
    (imports : List String) (origin : String) :
    engine files .servicesItems (.services functions imports origin) =
      .ok (.join (functions.map (·.text .standard)))
  /-- The head of the types module. -/
  typesHeader {files : TemplateFiles} (hfiles : files.IsBundled) (scopes : List TypeScope) :
    engine files .typesHeader (.types scopes) = .ok banner
  /-- The namespaces of types. -/
  typesItems {files : TemplateFiles} (hfiles : files.IsBundled) (scopes : List TypeScope) :
    engine files .typesItems (.types scopes) = .ok (.join (scopes.map (·.moduleText)))

namespace TemplateEngine

/-- The service functions by the templates of their parts, which are read if there is a function. -/
def functionsText (files : TemplateFiles) (functions : List ServiceFunction) : Except RenderFault String := do
  if functions.isEmpty then return ""
  let templates ← files.parts ModuleTemplates.services.included .standard
  return .join (functions.map (·.text templates))

/-- The engine that knows the templates that come with the program and those without markup. -/
def plain : TemplateEngine := fun files t context =>
  match t, context with
  | .servicesHeader, .services _ imports origin =>
      (files.part t).map fun part => part.text (servicesHead imports origin)
  | .servicesItems, .services functions _ _ => do
      match ← files.part t with
      | .standard => functionsText files functions
      | .verbatim text => return text
  | .typesHeader, .types _ => (files.part t).map fun part => part.text banner
  | .typesItems, .types scopes => (files.part t).map fun part => part.text (.join (scopes.map (·.moduleText)))
  | t, _ => .error (.failed (t.fileName ++ " does not stand by itself"))

/-- **The plain engine renders the templates that come with the program.** -/
theorem rendersBundled_plain : RendersBundled plain where
  servicesHeader hfiles _ _ _ := by
    rw [plain, hfiles.part_eq]
    rfl
  servicesItems hfiles functions _ _ := by
    rw [plain, hfiles.part_eq]
    show functionsText _ functions = _
    cases functions with
    | nil => rfl
    | cons f rest =>
        rw [functionsText, hfiles.parts_eq]
        rfl
  typesHeader hfiles _ := by
    rw [plain, hfiles.part_eq]
    rfl
  typesItems hfiles _ := by
    rw [plain, hfiles.part_eq]
    rfl

end TemplateEngine

end ServiceBindings
