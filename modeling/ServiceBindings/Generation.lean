import ServiceBindings.Module.Types
import ServiceBindings.Workspace.Loading
import ServiceBindings.Workspace.Output

/-! # A run of the generator

`generate` loads the document, derives its bindings, renders the two modules, writes them and, if asked
to, has them formatted. **Everything is rendered before anything is written.** The result is a
`Generation`. -/

namespace ServiceBindings

/-- What a run of the generator has made. -/
structure Generation where
  /-- The output directory. -/
  outputDir : Path
  /-- The files that were written. -/
  written : List Path
  /-- The bindings. -/
  bindings : Bindings

/-- The texts of the two modules under the names of their files. One name for both is one file, with
the text of the types module. -/
def moduleFiles (settings : Settings) (services types : String) : List (String × String) :=
  Entries.ofList [(settings.servicesFileName, services), (settings.typesFileName, types)]

/-- Derive the bindings of a document, and log the collisions of namespaces. -/
def deriveBindings (settings : Settings) (document : Value) : Job Bindings := do
  match (← read).interruption settings.selection document with
  | some reason => throw (.derivationGivenUp reason)
  | none =>
      let bindings ← Job.ofExcept .bindings (bindingsOf settings.selection document)
      bindings.collisions.forM fun collision => Job.log .warning .generation collision.message
      return bindings

/-- What is handed to the templates of the services module. -/
def servicesContext (settings : Settings) (bindings : Bindings) : RenderContext :=
  .services bindings.functions (typeImports bindings.functions) (moduleName settings.typesFileName)

/-- What is handed to the templates of the types module. -/
def typesContext (bindings : Bindings) : RenderContext := .types bindings.scopes

/-- Render the two modules: from the templates of a directory, or from those that come with the program. -/
def renderModules (settings : Settings) (bindings : Bindings) : Job (String × String) := do
  match settings.templateDir with
  | none =>
      return (servicesModule .standard settings.typesFileName bindings.functions,
        typesModule .standard bindings.scopes)
  | some directory =>
      let services ← renderFrom directory .services (servicesContext settings bindings)
      let types ← renderFrom directory .types (typesContext bindings)
      return (services, types)

/-- Run the generator. -/
def generate (settings : Settings) (followRedirections : Bool) : Job Generation := do
  let document ← loadDocument settings.docUrl followRedirections
  let bindings ← deriveBindings settings document
  let (services, types) ← renderModules settings bindings
  let written ← writeFiles settings.outputDir (moduleFiles settings services types)
  if settings.format then formatFiles written
  Job.log .info .generation ("Generated " ++ toString bindings.functions.length ++
    " operations into " ++ settings.outputDir.text)
  return ⟨settings.outputDir, written, bindings⟩

end ServiceBindings
