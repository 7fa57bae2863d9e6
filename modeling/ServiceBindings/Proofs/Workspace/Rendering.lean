import ServiceBindings.Proofs.Workspace.Interrupts

/-! # Rendering the modules

A module is rendered from its templates in a directory once all of them are there, by what the engine makes of its
head and of what comes below (`RendersFrom`). Without a directory the modules are put together from the standard
parts, so that `RendersModules` says of every run what it renders (`perform_renderModules_eq_ok_iff`). An engine
that renders the templates which come with the program gives the same modules from a directory that holds these
(`RendersModules.eq_standard`).

Rendering is interrupted by the path of a template that is too long to look for it, while the templates in front of
it are there, and by a fault of the engine (`interrupts_renderModules`). -/

namespace ServiceBindings

variable {s : Surroundings} {scene after : Scene} {failure : Failure} {directory : Path}

/-! ## Looking for templates -/

/-- A directory has the file of a template. -/
def Template.IsIn (t : Template) (directory : Path) (s : Surroundings) (files : FileSystem) : Prop :=
  ∃ bytes, s.readFile files (directory.join t.fileName) = .ok bytes

/-- Looking for a template that is there goes on with the others. -/
theorem perform_ensureTemplates_cons {t : Template} {rest : List Template}
    (h : t.IsIn directory s scene.files) : (ensureTemplates directory (t :: rest)).perform s scene =
      (ensureTemplates directory rest).perform s scene := by
  obtain ⟨bytes, hread⟩ := h
  rw [ensureTemplates, Job.perform_bind_of_ok (Job.perform_readBytes _), hread]

/-- Looking for a template that is not there fails: its path is too long, or it is missing. -/
theorem exists_perform_ensureTemplates_cons {t : Template} (rest : List Template)
    (h : ¬ t.IsIn directory s scene.files) : ∃ fault,
      s.readFile scene.files (directory.join t.fileName) = .error fault ∧
      (ensureTemplates directory (t :: rest)).perform s scene =
        (.error (if fault = .tooLong then .templateUnreachable (directory.join t.fileName)
          else .templateMissing (directory.join t.fileName)), scene) := by
  cases hread : s.readFile scene.files (directory.join t.fileName) with
  | ok bytes => exact absurd ⟨bytes, hread⟩ h
  | error fault =>
      refine ⟨fault, rfl, ?_⟩
      rw [ensureTemplates, Job.perform_bind_of_ok (Job.perform_readBytes _), hread]
      cases fault <;> rfl

/-- Looking for templates succeeds exactly if all are there, and changes nothing. -/
theorem perform_ensureTemplates_eq_ok_iff {templates : List Template} :
    (ensureTemplates directory templates).perform s scene = (.ok (), after) ↔
      (∀ t ∈ templates, t.IsIn directory s scene.files) ∧ after = scene := by
  induction templates with
  | nil =>
      show (Except.ok (), scene) = (.ok (), after) ↔ _
      simp [eq_comm]
  | cons t rest ih =>
      by_cases ht : t.IsIn directory s scene.files
      · rw [perform_ensureTemplates_cons ht, ih, List.forall_mem_cons, and_iff_right ht]
      · obtain ⟨fault, -, hrun⟩ := exists_perform_ensureTemplates_cons rest ht
        rw [hrun]
        exact Iff.intro (fun h => by cases h) fun h => absurd (h.1 t List.mem_cons_self) ht

/-- **Looking for templates is interrupted** at the first that is not there if its path is too long. -/
theorem interrupts_ensureTemplates {templates : List Template} :
    (ensureTemplates directory templates).Interrupts s scene failure ↔
      ∃ front t rest, templates = front ++ t :: rest ∧ (∀ t' ∈ front, t'.IsIn directory s scene.files) ∧
        s.readFile scene.files (directory.join t.fileName) = .error .tooLong ∧
        failure = .templateUnreachable (directory.join t.fileName) := by
  induction templates with
  | nil =>
      refine Iff.intro (fun h => absurd h ((Job.succeeds_pure _).reports s scene failure)) ?_
      rintro ⟨front, t, rest, h, -⟩
      cases front <;> cases h
  | cons t rest ih =>
      by_cases ht : t.IsIn directory s scene.files
      -- a template that is there belongs to those in front
      · rw [Job.Interrupts, perform_ensureTemplates_cons ht]
        refine ih.trans ⟨?_, ?_⟩
        · rintro ⟨front, t', others, rfl, hfront, h⟩
          exact ⟨t :: front, t', others, rfl, List.forall_mem_cons.mpr ⟨ht, hfront⟩, h⟩
        · rintro ⟨_ | ⟨t₁, front⟩, t', others, htemplates, hfront, hlong, h⟩
          · obtain ⟨rfl, rfl⟩ := List.cons.inj htemplates
            obtain ⟨bytes, hread⟩ := ht
            cases hread.symm.trans hlong
          · obtain ⟨rfl, rfl⟩ := List.cons.inj htemplates
            exact ⟨front, t', others, rfl, (List.forall_mem_cons.mp hfront).2, hlong, h⟩
      · obtain ⟨fault, hread, hrun⟩ := exists_perform_ensureTemplates_cons rest ht
        rw [Job.Interrupts, hrun]
        constructor
        · rintro ⟨harea, hfailure⟩
          obtain rfl := Except.error.inj hfailure
          by_cases hlong : fault = .tooLong
          · rw [if_pos hlong]
            exact ⟨[], t, rest, rfl, List.forall_mem_nil _, hlong ▸ hread, rfl⟩
          · rw [if_neg hlong] at harea
            cases harea
        · rintro ⟨_ | ⟨t₁, front⟩, t', others, htemplates, hfront, hlong, rfl⟩
          · obtain ⟨rfl, rfl⟩ := List.cons.inj htemplates
            obtain rfl := Except.error.inj (hread.symm.trans hlong)
            exact ⟨rfl, rfl⟩
          · obtain ⟨rfl, rfl⟩ := List.cons.inj htemplates
            exact absurd (hfront t List.mem_cons_self) ht

/-! ## One module -/

variable {m : ModuleTemplates} {context : RenderContext}

/-- **A module is rendered from its templates in a directory** as a text: all of them are there, and the text
is what the engine makes of its head and of what comes below. -/
structure RendersFrom (s : Surroundings) (files : FileSystem) (directory : Path) (m : ModuleTemplates)
    (context : RenderContext) (text : String) : Prop where
  /-- All templates are there. -/
  present : ∀ t ∈ m.all, t.IsIn directory s files
  /-- The engine makes the text of them. -/
  text : ∃ head items, s.engine (s.filesIn files directory) m.head context = .ok head ∧
    s.engine (s.filesIn files directory) m.items context = .ok items ∧ text = head ++ items

/-- **What interrupts rendering** a module from its templates in a directory. -/
inductive RenderInterrupt (s : Surroundings) (files : FileSystem) (directory : Path) (m : ModuleTemplates)
    (context : RenderContext) : Failure → Prop
  /-- The path of a template is too long, and those in front of it are there. -/
  | unreachable {front rest : List Template} {t : Template} (htemplates : m.all = front ++ t :: rest)
      (hfront : ∀ t' ∈ front, t'.IsIn directory s files)
      (h : s.readFile files (directory.join t.fileName) = .error .tooLong) :
      RenderInterrupt s files directory m context (.templateUnreachable (directory.join t.fileName))
  /-- The engine fails with the head. -/
  | head {fault : RenderFault} (hpresent : ∀ t ∈ m.all, t.IsIn directory s files)
      (h : s.engine (s.filesIn files directory) m.head context = .error fault) :
      RenderInterrupt s files directory m context (.notRendered m.head fault)
  /-- The engine fails with what comes below the head. -/
  | items {head : String} {fault : RenderFault} (hpresent : ∀ t ∈ m.all, t.IsIn directory s files)
      (hhead : s.engine (s.filesIn files directory) m.head context = .ok head)
      (h : s.engine (s.filesIn files directory) m.items context = .error fault) :
      RenderInterrupt s files directory m context (.notRendered m.items fault)

/-- Having a template rendered is ending as the engine does. -/
theorem perform_renderTemplate (directory : Path) (context : RenderContext) (t : Template) :
    (renderTemplate directory context t).perform s scene =
      (Job.ofExcept (.notRendered t) (s.engine (s.filesIn scene.files directory) t context)).perform s scene := by
  unfold renderTemplate
  rw [Job.perform_bind_of_ok Job.perform_read, Job.perform_bind_of_ok Job.perform_get]

/-- Having a template rendered gives what the engine makes of it, and changes nothing. -/
theorem perform_renderTemplate_eq_ok_iff {t : Template} {text : String} :
    (renderTemplate directory context t).perform s scene = (.ok text, after) ↔
      s.engine (s.filesIn scene.files directory) t context = .ok text ∧ after = scene := by
  rw [perform_renderTemplate, Job.perform_ofExcept_eq_ok_iff]

/-- Having a template rendered is interrupted by a fault of the engine. -/
theorem interrupts_renderTemplate {t : Template} :
    (renderTemplate directory context t).Interrupts s scene failure ↔ ∃ fault,
      s.engine (s.filesIn scene.files directory) t context = .error fault ∧
        failure = .notRendered t fault := by
  rw [Job.Interrupts, perform_renderTemplate]
  refine Job.interrupts_ofExcept.trans (exists_congr fun fault => and_congr_right' ?_)
  exact and_iff_right rfl

/-- **Rendering a module gives its text**, and changes nothing. -/
theorem perform_renderFrom_eq_ok_iff {text : String} :
    (renderFrom directory m context).perform s scene = (.ok text, after) ↔
      RendersFrom s scene.files directory m context text ∧ after = scene := by
  unfold renderFrom
  constructor
  · intro hrun
    obtain ⟨_, found, hfound, hrendered⟩ := Job.ok_of_perform_bind hrun
    obtain ⟨head, between, hhead, hbelow⟩ := Job.ok_of_perform_bind hrendered
    obtain ⟨items, last, hitems, hresult⟩ := Job.ok_of_perform_bind hbelow
    cases hresult
    obtain ⟨hpresent, rfl⟩ := perform_ensureTemplates_eq_ok_iff.mp hfound
    obtain ⟨hhead, rfl⟩ := perform_renderTemplate_eq_ok_iff.mp hhead
    obtain ⟨hitems, rfl⟩ := perform_renderTemplate_eq_ok_iff.mp hitems
    exact ⟨⟨hpresent, head, items, hhead, hitems, rfl⟩, rfl⟩
  · rintro ⟨⟨hpresent, head, items, hhead, hitems, rfl⟩, rfl⟩
    rw [Job.perform_bind_of_ok (perform_ensureTemplates_eq_ok_iff.mpr ⟨hpresent, rfl⟩),
      Job.perform_bind_of_ok (perform_renderTemplate_eq_ok_iff.mpr ⟨hhead, rfl⟩),
      Job.perform_bind_of_ok (perform_renderTemplate_eq_ok_iff.mpr ⟨hitems, rfl⟩)]
    rfl

/-- **Rendering a module is interrupted** by these. -/
theorem interrupts_renderFrom : (renderFrom directory m context).Interrupts s scene failure ↔
    RenderInterrupt s scene.files directory m context failure := by
  unfold renderFrom
  simp only [Job.interrupts_bind, interrupts_ensureTemplates, interrupts_renderTemplate,
    perform_renderTemplate_eq_ok_iff]
  constructor
  · rintro (⟨front, t, rest, htemplates, hfront, hlong, rfl⟩ | ⟨_, _, hfound, h⟩)
    · exact .unreachable htemplates hfront hlong
    obtain ⟨hpresent, rfl⟩ := perform_ensureTemplates_eq_ok_iff.mp hfound
    rcases h with ⟨fault, hfault, rfl⟩ | ⟨head, _, ⟨hhead, rfl⟩, h⟩
    · exact .head hpresent hfault
    rcases h with ⟨fault, hfault, rfl⟩ | ⟨items, between, -, h⟩
    · exact .items hpresent hhead hfault
    · exact absurd h ((Job.succeeds_pure _).reports s between failure)
  · rintro (⟨htemplates, hfront, hlong⟩ | ⟨hpresent, hfault⟩ | ⟨hpresent, hhead, hfault⟩)
    · exact .inl ⟨_, _, _, htemplates, hfront, hlong, rfl⟩
    · exact .inr ⟨(), scene, perform_ensureTemplates_eq_ok_iff.mpr ⟨hpresent, rfl⟩, .inl ⟨_, hfault, rfl⟩⟩
    · exact .inr ⟨(), scene, perform_ensureTemplates_eq_ok_iff.mpr ⟨hpresent, rfl⟩,
        .inr ⟨_, scene, ⟨hhead, rfl⟩, .inl ⟨_, hfault, rfl⟩⟩⟩

/-! ## Both modules -/

variable {settings : Settings} {bindings : Bindings} {services types : String} {files : FileSystem}

/-- **What a run renders**: the two modules, from the standard parts or from the templates of a directory. -/
inductive RendersModules (s : Surroundings) (files : FileSystem) (settings : Settings) (bindings : Bindings) :
    String → String → Prop
  /-- From the standard parts. -/
  | standard (hnone : settings.templateDir = none) :
      RendersModules s files settings bindings
        (servicesModule .standard settings.typesFileName bindings.functions)
        (typesModule .standard bindings.scopes)
  /-- From the templates of a directory. -/
  | templates {directory : Path} {services types : String} (hdirectory : settings.templateDir = some directory)
      (hservices : RendersFrom s files directory .services (servicesContext settings bindings) services)
      (htypes : RendersFrom s files directory .types (typesContext bindings) types) :
      RendersModules s files settings bindings services types

/-- **What interrupts rendering** the two modules. -/
inductive ModulesInterrupt (s : Surroundings) (files : FileSystem) (settings : Settings) (bindings : Bindings) :
    Failure → Prop
  /-- Rendering the services module. -/
  | services {directory : Path} {failure : Failure} (hdirectory : settings.templateDir = some directory)
      (h : RenderInterrupt s files directory .services (servicesContext settings bindings) failure) :
      ModulesInterrupt s files settings bindings failure
  /-- Rendering the types module, after the services module. -/
  | types {directory : Path} {services : String} {failure : Failure}
      (hdirectory : settings.templateDir = some directory)
      (hservices : RendersFrom s files directory .services (servicesContext settings bindings) services)
      (h : RenderInterrupt s files directory .types (typesContext bindings) failure) :
      ModulesInterrupt s files settings bindings failure

/-- **Rendering gives the two modules**, and changes nothing. -/
theorem perform_renderModules_eq_ok_iff :
    (renderModules settings bindings).perform s scene = (.ok (services, types), after) ↔
      RendersModules s scene.files settings bindings services types ∧ after = scene := by
  unfold renderModules
  cases hdirectory : settings.templateDir with
  | none =>
      constructor
      · intro h
        cases h
        exact ⟨.standard hdirectory, rfl⟩
      · rintro ⟨_ | ⟨hsome, -, -⟩, rfl⟩
        · rfl
        · cases hdirectory.symm.trans hsome
  | some directory =>
      constructor
      · intro hrun
        obtain ⟨_, between, hservices, hrest⟩ := Job.ok_of_perform_bind hrun
        obtain ⟨_, last, htypes, hresult⟩ := Job.ok_of_perform_bind hrest
        cases hresult
        obtain ⟨hservices, rfl⟩ := perform_renderFrom_eq_ok_iff.mp hservices
        obtain ⟨htypes, rfl⟩ := perform_renderFrom_eq_ok_iff.mp htypes
        exact ⟨.templates hdirectory hservices htypes, rfl⟩
      · rintro ⟨hnone | ⟨hsome, hservices, htypes⟩, rfl⟩
        · cases hdirectory.symm.trans hnone
        · cases hdirectory.symm.trans hsome
          dsimp only
          rw [Job.perform_bind_of_ok (perform_renderFrom_eq_ok_iff.mpr ⟨hservices, rfl⟩),
            Job.perform_bind_of_ok (perform_renderFrom_eq_ok_iff.mpr ⟨htypes, rfl⟩)]
          rfl

/-- **Rendering the modules is interrupted** by these. -/
theorem interrupts_renderModules : (renderModules settings bindings).Interrupts s scene failure ↔
    ModulesInterrupt s scene.files settings bindings failure := by
  unfold renderModules
  cases hdirectory : settings.templateDir with
  | none =>
      refine Iff.intro (fun h => absurd h ((Job.succeeds_pure _).reports s scene failure)) ?_
      rintro (⟨hsome, -⟩ | ⟨hsome, -, -⟩)
      · cases hdirectory.symm.trans hsome
      · cases hdirectory.symm.trans hsome
  | some directory =>
      simp only [Job.interrupts_bind, interrupts_renderFrom, perform_renderFrom_eq_ok_iff]
      constructor
      · rintro (hservices | ⟨services, _, ⟨hservices, rfl⟩, htypes | ⟨types, between, -, h⟩⟩)
        · exact .services hdirectory hservices
        · exact .types hdirectory hservices htypes
        · exact absurd h ((Job.succeeds_pure _).reports s between failure)
      · rintro (⟨hsome, hservices⟩ | ⟨hsome, hservices, htypes⟩)
        · cases hdirectory.symm.trans hsome
          exact .inl hservices
        · cases hdirectory.symm.trans hsome
          exact .inr ⟨_, scene, ⟨hservices, rfl⟩, .inl htypes⟩

/-- **Templates that come with the program give the standard modules**, by an engine that renders them. -/
theorem RendersModules.eq_standard (h : RendersModules s files settings bindings services types)
    (hengine : RendersBundled s.engine)
    (hfiles : ∀ directory, settings.templateDir = some directory → (s.filesIn files directory).IsBundled) :
    services = servicesModule .standard settings.typesFileName bindings.functions ∧
      types = typesModule .standard bindings.scopes := by
  cases h with
  | standard _ => exact ⟨rfl, rfl⟩
  | templates hdirectory hservices htypes =>
      have hbundled := hfiles _ hdirectory
      obtain ⟨head, items, hhead, hitems, rfl⟩ := hservices.text
      obtain ⟨head', items', hhead', hitems', rfl⟩ := htypes.text
      obtain rfl := Except.ok.inj (hhead.symm.trans (hengine.servicesHeader hbundled _ _ _))
      obtain rfl := Except.ok.inj (hitems.symm.trans (hengine.servicesItems hbundled _ _ _))
      obtain rfl := Except.ok.inj (hhead'.symm.trans (hengine.typesHeader hbundled _))
      obtain rfl := Except.ok.inj (hitems'.symm.trans (hengine.typesItems hbundled _))
      exact ⟨rfl, rfl⟩

end ServiceBindings
