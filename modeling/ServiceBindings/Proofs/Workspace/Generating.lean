import ServiceBindings.Proofs.Workspace.Loading
import ServiceBindings.Proofs.Workspace.Rendering

/-! # What interrupts a run of the generator

* Deriving bindings is interrupted where the interpreter gives it up, and by a pointer with a step that has too many
  digits (`interrupts_deriveBindings`).
* Rendering is interrupted as `ModulesInterrupt` says.
* Writing is interrupted by a path that the system cannot be asked about, that of the output directory or of one of
  the files, and by a text that cannot be encoded, once the files in front were written
  (`interrupts_writeFiles`).
* Formatting is interrupted by a formatter that writes no text (`interrupts_formatFiles`).

**A run of the generator is interrupted** by what interrupts one of its stages after the stages in front of it
succeeded (`GenerationInterrupt`, `interrupts_generate`). -/

namespace ServiceBindings

variable {s : Surroundings} {scene after : Scene} {failure : Failure} {directory : Path} {settings : Settings}

/-! ## Deriving bindings -/

/-- **What interrupts deriving bindings** of a document. -/
inductive DerivingInterrupt (s : Surroundings) (selection : Selection) (document : Value) : Failure → Prop
  /-- The interpreter gives it up. -/
  | givenUp {reason : String} (h : s.interruption selection document = some reason) :
      DerivingInterrupt s selection document (.derivationGivenUp reason)
  /-- A step of a pointer has too many digits. -/
  | reference {error : ReferenceError} (hgoes : s.interruption selection document = none)
      (h : bindingsOf selection document = .error (.reference error)) (herror : error.isReported = false) :
      DerivingInterrupt s selection document (.bindings (.reference error))

/-- Deriving bindings gives those of the document, unless the interpreter gives up. -/
theorem exists_perform_deriveBindings_iff {document : Value} {bindings : Bindings} :
    (∃ after, (deriveBindings settings document).perform s scene = (.ok bindings, after)) ↔
      s.interruption settings.selection document = none ∧
        bindingsOf settings.selection document = .ok bindings := by
  unfold deriveBindings
  rw [Job.perform_bind_of_ok Job.perform_read]
  cases s.interruption settings.selection document with
  | some reason => simp [Job.perform_throw]
  | none =>
      dsimp only
      constructor
      · rintro ⟨after, hrun⟩
        obtain ⟨derived, between, hderive, hrest⟩ := Job.ok_of_perform_bind hrun
        obtain ⟨_, last, -, hresult⟩ := Job.ok_of_perform_bind hrest
        cases hresult
        exact ⟨rfl, (Job.perform_ofExcept_eq_ok_iff.mp hderive).1⟩
      · rintro ⟨-, hbindings⟩
        have hlog : (bindings.collisions.forM fun collision =>
            Job.log .warning .generation collision.message).Succeeds :=
          Job.succeeds_forM _ fun _ => Job.succeeds_log _ _ _
        obtain ⟨_, last, hlogged⟩ := hlog s scene
        rw [Job.perform_bind_of_ok (Job.perform_ofExcept_eq_ok_iff.mpr ⟨hbindings, rfl⟩),
          Job.perform_bind_of_ok hlogged]
        exact ⟨last, rfl⟩

/-- A failure to derive bindings is not reported exactly if its error is that of a limit. -/
theorem area_bindings_eq_none_iff {error : BindingError} : (Failure.bindings error).area? = none ↔
    ∃ reference, error = .reference reference ∧ reference.isReported = false := by
  cases error with
  | noPaths => exact ⟨nofun, fun ⟨_, h, _⟩ => by cases h⟩
  | reference reference => simp [Failure.area?]

/-- **Deriving bindings is interrupted** by these. -/
theorem interrupts_deriveBindings {document : Value} :
    (deriveBindings settings document).Interrupts s scene failure ↔
      DerivingInterrupt s settings.selection document failure := by
  have hlogged : ∀ bindings : Bindings, (do
      bindings.collisions.forM fun collision => Job.log .warning .generation collision.message
      return bindings : Job Bindings).Reports := fun bindings =>
    (Job.succeeds_forM _ fun _ => Job.succeeds_log _ _ _).reports.bind fun _ => (Job.succeeds_pure _).reports
  unfold deriveBindings
  rw [Job.interrupts_bind_of_ok Job.perform_read]
  cases hgoes : s.interruption settings.selection document with
  | some reason =>
      dsimp only
      rw [Job.interrupts_throw]
      constructor
      · rintro ⟨-, rfl⟩
        exact .givenUp hgoes
      · rintro (hreason | ⟨hnone, -⟩)
        · cases hgoes.symm.trans hreason
          exact ⟨rfl, rfl⟩
        · cases hgoes.symm.trans hnone
  | none =>
      dsimp only
      rw [Job.interrupts_bind_of_reports hlogged, Job.interrupts_ofExcept]
      constructor
      · rintro ⟨error, herror, harea, rfl⟩
        obtain ⟨reference, rfl, hreported⟩ := area_bindings_eq_none_iff.mp harea
        exact .reference hgoes herror hreported
      · rintro (hreason | ⟨-, herror, hreported⟩)
        · cases hgoes.symm.trans hreason
        · exact ⟨_, herror, area_bindings_eq_none_iff.mpr ⟨_, rfl, hreported⟩, rfl⟩

/-! ## Writing -/

/-- That the output directory cannot be made is about the output. -/
theorem isAbout_directoryNotMade (path : Path) : IsAbout (.directoryNotMade path) .output := fun _ => rfl

/-- That a file cannot be written is about the output. -/
theorem isAbout_fileNotWritten (path : Path) : IsAbout (.fileNotWritten path) .output := fun _ => rfl

/-- Making the output directory is interrupted by a path that the system cannot be asked about. -/
theorem interrupts_makeOutputDir : (makeOutputDir directory).Interrupts s scene failure ↔
    ∃ fault, s.Refuses directory fault ∧ failure = .directoryNotMade directory (.file fault) := by
  rw [Job.Interrupts, perform_makeOutputDir]
  constructor
  · rintro ⟨harea, h⟩
    cases hresult : (s.ensureDir scene.files directory).2 with
    | ok _ =>
        rw [hresult] at h
        cases h
    | error fault =>
        rw [hresult] at h
        cases h
        have hfault := (isAbout_directoryNotMade directory).area_eq_none_iff.mp harea
        exact ⟨fault, Surroundings.ensureDir_unreported_iff.mp ⟨hresult, hfault⟩, rfl⟩
  · rintro ⟨fault, hrefused, rfl⟩
    rw [hrefused.ensureDir_eq]
    exact ⟨(isAbout_directoryNotMade directory).area_eq_none_iff.mpr hrefused.isReported_eq, rfl⟩

/-- Writing bytes is interrupted by a path that the system cannot be asked about. -/
theorem interrupts_writeBytes {path : Path} {bytes : ByteArray} :
    (writeBytes path bytes).Interrupts s scene failure ↔
      ∃ fault, s.Refuses path fault ∧ failure = .fileNotWritten path (.file fault) := by
  rw [Job.Interrupts, perform_writeBytes]
  constructor
  · rintro ⟨harea, h⟩
    split at h
    · cases h
    · next fault hwrite =>
        cases h
        have hfault := (isAbout_fileNotWritten path).area_eq_none_iff.mp harea
        exact ⟨fault, Surroundings.writeFile_unreported_iff.mp ⟨hwrite, hfault⟩, rfl⟩
  · rintro ⟨fault, hrefused, rfl⟩
    obtain ⟨hwrite, hfault⟩ := Surroundings.writeFile_unreported_iff.mpr hrefused
    rw [hwrite]
    exact ⟨(isAbout_fileNotWritten path).area_eq_none_iff.mpr hfault, rfl⟩

/-- **What interrupts writing a text** into a file. -/
inductive TextInterrupt (s : Surroundings) (files : FileSystem) (path : Path) (text : String) : Failure → Prop
  /-- The system cannot be asked about the path. -/
  | path {fault : FileFault} (h : s.Refuses path fault) :
      TextInterrupt s files path text (.fileNotWritten path (.file fault))
  /-- The text cannot be encoded, and its file can be emptied. -/
  | text {emptied : FileSystem} (h : s.readers.surrogates.encodes text = false)
      (hemptied : s.writeFile files path .empty = .ok emptied) :
      TextInterrupt s files path text (.textNotEncoded path)

/-- Writing a text is interrupted by these. -/
theorem interrupts_writeText {path : Path} {text : String} :
    (writeText path text).Interrupts s scene failure ↔ TextInterrupt s scene.files path text failure := by
  rw [Job.Interrupts]
  cases hencodes : s.readers.surrogates.encodes text with
  | true =>
      rw [perform_writeText_of_encodes hencodes]
      refine interrupts_writeBytes.trans ⟨?_, ?_⟩
      · rintro ⟨fault, hrefused, rfl⟩
        exact .path hrefused
      · rintro (hrefused | ⟨hnot, -⟩)
        · exact ⟨_, hrefused, rfl⟩
        · cases hencodes.symm.trans hnot
  | false =>
      rw [perform_writeText_of_not_encodes hencodes]
      refine Job.interrupts_bind.trans ?_
      rw [interrupts_writeBytes]
      simp only [perform_writeBytes]
      constructor
      · rintro (⟨fault, hrefused, rfl⟩ | ⟨_, between, hemptied, h⟩)
        · exact .path hrefused
        · obtain ⟨-, rfl⟩ := Job.interrupts_throw.mp h
          split at hemptied
          · next emptied hwrite => exact .text hencodes hwrite
          · cases hemptied
      · rintro (hrefused | ⟨-, hemptied⟩)
        · exact .inl ⟨_, hrefused, rfl⟩
        · refine .inr ⟨(), _, by rw [hemptied], Job.interrupts_throw.mpr ⟨rfl, rfl⟩⟩

/-- Writing texts is interrupted at one of them, once the texts in front were written. -/
theorem interrupts_writeTexts {entries : List (String × String)} :
    (writeTexts directory entries).Interrupts s scene failure ↔
      ∃ front name text rest paths between, entries = front ++ (name, text) :: rest ∧
        (writeTexts directory front).perform s scene = (.ok paths, between) ∧
        TextInterrupt s between.files (directory.join name) text failure := by
  induction entries generalizing scene with
  | nil =>
      refine Iff.intro (fun h => absurd h ((Job.succeeds_pure _).reports s scene failure)) ?_
      rintro ⟨front, name, text, rest, paths, between, h, -⟩
      simp at h
  | cons entry others ih =>
      obtain ⟨name, text⟩ := entry
      have hwhole : (writeTexts directory ((name, text) :: others)).Interrupts s scene failure ↔
          (writeText (directory.join name) text).Interrupts s scene failure ∨
            ∃ u between, (writeText (directory.join name) text).perform s scene = (.ok u, between) ∧
              (writeTexts directory others).Interrupts s between failure := by
        rw [writeTexts, Job.interrupts_bind]
        simp only [Job.interrupts_bind_of_reports fun _ => (Job.succeeds_pure _).reports]
      rw [hwhole, interrupts_writeText]
      constructor
      · rintro (htext | ⟨_, between, hfirst, h⟩)
        · exact ⟨[], name, text, others, [], scene, rfl, rfl, htext⟩
        · obtain ⟨front, name', text', rest, paths, last, rfl, hfront, htext⟩ := ih.mp h
          refine ⟨(name, text) :: front, name', text', rest, directory.join name :: paths, last, rfl, ?_, htext⟩
          rw [writeTexts, Job.perform_bind_of_ok hfirst, Job.perform_bind_of_ok hfront]
          rfl
      · rintro ⟨front, name', text', rest, paths, last, hentries, hfront, htext⟩
        rcases front with _ | ⟨entry, front⟩
        · obtain ⟨h, -⟩ := List.cons.inj hentries
          cases h
          cases hfront
          exact Or.inl htext
        · obtain ⟨rfl, rfl⟩ := List.cons.inj hentries
          rw [writeTexts] at hfront
          obtain ⟨u, between, hfirst, hothers⟩ := Job.ok_of_perform_bind hfront
          obtain ⟨paths', between', hrest, hresult⟩ := Job.ok_of_perform_bind hothers
          cases hresult
          exact Or.inr ⟨u, between, hfirst,
            ih.mpr ⟨front, name', text', rest, paths', last, rfl, hrest, htext⟩⟩

/-- **What interrupts writing** files into a directory. -/
inductive OutputInterrupt (directory : Path) (entries : List (String × String)) (s : Surroundings)
    (scene : Scene) : Failure → Prop
  /-- The system cannot be asked about the path of the directory. -/
  | directory {fault : FileFault} (h : s.Refuses directory fault) :
      OutputInterrupt directory entries s scene (.directoryNotMade directory (.file fault))
  /-- A file cannot be written, and the files in front of it were written. -/
  | file {front rest : List (String × String)} {name text : String} {paths : List Path} {written : Scene}
      {failure : Failure} (hentries : entries = front ++ (name, text) :: rest)
      (hwritten : (writeFiles directory front).perform s scene = (.ok paths, written))
      (h : TextInterrupt s written.files (directory.join name) text failure) :
      OutputInterrupt directory entries s scene failure

/-- **Writing files is interrupted** by these. -/
theorem interrupts_writeFiles {entries : List (String × String)} :
    (writeFiles directory entries).Interrupts s scene failure ↔
      OutputInterrupt directory entries s scene failure := by
  unfold writeFiles
  rw [Job.interrupts_bind, interrupts_makeOutputDir]
  constructor
  · rintro (⟨fault, hrefused, rfl⟩ | ⟨_, made, hmade, h⟩)
    · exact .directory hrefused
    · obtain ⟨front, name, text, rest, paths, written, hentries, hfront, htext⟩ := interrupts_writeTexts.mp h
      have hwritten : (writeFiles directory front).perform s scene = (.ok paths, written) :=
        (Job.perform_bind_of_ok hmade).trans hfront
      exact .file hentries hwritten htext
  · rintro (hrefused | ⟨hentries, hwritten, htext⟩)
    · exact Or.inl ⟨_, hrefused, rfl⟩
    · obtain ⟨u, made, hmade, hfront⟩ := Job.ok_of_perform_bind hwritten
      exact Or.inr ⟨u, made, hmade, interrupts_writeTexts.mpr ⟨_, _, _, _, _, _, hentries, hfront, htext⟩⟩

/-! ## Formatting -/

/-- **Formatting is interrupted** by a formatter that writes no text, if there are files. -/
theorem interrupts_formatFiles {paths : List Path} : (formatFiles paths).Interrupts s scene failure ↔
    paths ≠ [] ∧ s.FormatterIsGarbled ∧ failure = .formatterGarbled := by
  have hgarbled : (formatFiles paths).Interrupts s scene failure →
      failure = .formatterGarbled ∧ s.FormatterIsGarbled := by
    rintro ⟨harea, hrun⟩
    refine ((formats_formatFiles paths).failure failure hrun).resolve_left fun houtput => ?_
    cases harea.symm.trans houtput
  constructor
  · intro h
    obtain ⟨hfailure, hformatter⟩ := hgarbled h
    refine ⟨?_, hformatter, hfailure⟩
    rintro rfl
    exact (Job.succeeds_pure _).reports s scene failure h
  · rintro ⟨hpaths, ⟨formatter, hformatter, hrun⟩, rfl⟩
    refine ⟨rfl, ?_⟩
    unfold formatFiles
    rw [if_neg (by simpa using hpaths), Job.perform_bind_of_ok Job.perform_read, hformatter]
    dsimp only
    rw [Job.perform_bind_of_ok (Job.perform_modify _), hrun]
    rfl

/-! ## The run -/

/-- **What interrupts a run of the generator**: what interrupts one of its stages, after the stages in front
of it. -/
inductive GenerationInterrupt (settings : Settings) (follow : Bool) (s : Surroundings) (scene : Scene) :
    Failure → Prop
  /-- Loading the document. -/
  | document {failure : Failure} (h : DocumentInterrupt s scene.files settings.docUrl follow failure) :
      GenerationInterrupt settings follow s scene failure
  /-- Deriving its bindings. -/
  | deriving {document : Value} {loaded : Scene} {failure : Failure}
      (hloaded : (loadDocument settings.docUrl follow).perform s scene = (.ok document, loaded))
      (h : DerivingInterrupt s settings.selection document failure) :
      GenerationInterrupt settings follow s scene failure
  /-- Rendering the modules. -/
  | modules {bindings : Bindings} {bound : Scene} {failure : Failure}
      (hbound : (loadDocument settings.docUrl follow >>= deriveBindings settings).perform s scene =
        (.ok bindings, bound))
      (h : ModulesInterrupt s scene.files settings bindings failure) :
      GenerationInterrupt settings follow s scene failure
  /-- Writing what was rendered. -/
  | output {bindings : Bindings} {services types : String} {bound : Scene} {failure : Failure}
      (hbound : (loadDocument settings.docUrl follow >>= deriveBindings settings).perform s scene =
        (.ok bindings, bound))
      (hrendered : RendersModules s scene.files settings bindings services types)
      (h : OutputInterrupt settings.outputDir (moduleFiles settings services types) s bound failure) :
      GenerationInterrupt settings follow s scene failure
  /-- Formatting what was written. -/
  | formatting {bindings : Bindings} {services types : String} {bound written : Scene} {paths : List Path}
      (hbound : (loadDocument settings.docUrl follow >>= deriveBindings settings).perform s scene =
        (.ok bindings, bound))
      (hrendered : RendersModules s scene.files settings bindings services types)
      (hwritten : (writeFiles settings.outputDir (moduleFiles settings services types)).perform s bound =
        (.ok paths, written))
      (hformat : settings.format = true) (h : s.FormatterIsGarbled) :
      GenerationInterrupt settings follow s scene .formatterGarbled

/-- What a run does after writing: it has the files formatted if asked to, and says what it has made. -/
def concludeRun (settings : Settings) (bindings : Bindings) (written : List Path) : Job Generation := do
  if settings.format then formatFiles written
  Job.log .info .generation ("Generated " ++ toString bindings.functions.length ++
    " operations into " ++ settings.outputDir.text)
  return ⟨settings.outputDir, written, bindings⟩

/-- What a run does after writing is interrupted by formatting. -/
theorem interrupts_concludeRun {bindings : Bindings} {written : List Path} :
    (concludeRun settings bindings written).Interrupts s scene failure ↔
      settings.format = true ∧ written ≠ [] ∧ s.FormatterIsGarbled ∧ failure = .formatterGarbled := by
  unfold concludeRun
  extract_lets finish
  have hfinish : ∀ u, (finish u).Reports := fun _ =>
    (Job.succeeds_log _ _ _).reports.bind fun _ => (Job.succeeds_pure _).reports
  split
  · next hformat =>
      rw [Job.interrupts_bind_of_reports hfinish, interrupts_formatFiles, and_iff_right hformat]
  · next hformat =>
      exact Iff.intro (fun h => absurd h (hfinish () s scene failure)) fun h => absurd h.1 hformat

/-- The stages of a run. -/
theorem generate_eq (settings : Settings) (follow : Bool) : generate settings follow = (do
    let document ← loadDocument settings.docUrl follow
    let bindings ← deriveBindings settings document
    let modules ← renderModules settings bindings
    let written ← writeFiles settings.outputDir (moduleFiles settings modules.1 modules.2)
    concludeRun settings bindings written) := rfl

/-- The modules that were written have paths. -/
theorem paths_ne_nil_of_writeModules {services types : String} {paths : List Path}
    (h : (writeFiles settings.outputDir (moduleFiles settings services types)).perform s scene =
      (.ok paths, after)) : paths ≠ [] := by
  obtain ⟨⟨name, text⟩, hentry, -⟩ :
      ∃ entry ∈ moduleFiles settings services types, entry.1 = settings.servicesFileName :=
    exists_mem_moduleFiles List.mem_cons_self
  obtain ⟨first, rest, hentries⟩ := List.exists_cons_of_ne_nil (List.ne_nil_of_mem hentry)
  obtain ⟨_, made, -, htexts⟩ := Job.ok_of_perform_bind h
  rw [hentries] at htexts
  obtain ⟨_, _, -, -, rfl, -⟩ := exists_of_writeTexts_cons htexts
  exact List.cons_ne_nil _ _

/-- What a run does after rendering is interrupted by writing, or by formatting what was written. -/
theorem interrupts_writeModules_bind {bindings : Bindings} {services types : String} : (do
      let written ← writeFiles settings.outputDir (moduleFiles settings services types)
      concludeRun settings bindings written).Interrupts s scene failure ↔
    OutputInterrupt settings.outputDir (moduleFiles settings services types) s scene failure ∨
      ∃ paths written, (writeFiles settings.outputDir (moduleFiles settings services types)).perform s scene =
        (.ok paths, written) ∧
        settings.format = true ∧ s.FormatterIsGarbled ∧ failure = .formatterGarbled := by
  rw [Job.interrupts_bind, interrupts_writeFiles]
  simp only [interrupts_concludeRun]
  refine or_congr_right (exists_congr fun paths => exists_congr fun written => and_congr_right fun hwritten => ?_)
  rw [and_iff_right (paths_ne_nil_of_writeModules hwritten)]

/-- **A run of the generator is interrupted** by these. -/
theorem interrupts_generate {follow : Bool} : (generate settings follow).Interrupts s scene failure ↔
    GenerationInterrupt settings follow s scene failure := by
  -- no file has changed before rendering
  have hfiles : ∀ bindings bound, (loadDocument settings.docUrl follow >>= deriveBindings settings).perform
      s scene = (.ok bindings, bound) → bound.files = scene.files := by
    intro bindings bound hbound
    have hquiet := ((quiet_loadDocument settings.docUrl follow).bind
      fun document => quiet_deriveBindings settings document) s scene
    rw [hbound] at hquiet
    exact hquiet.files
  rw [generate_eq, Job.interrupts_bind, interrupts_loadDocument]
  constructor
  · rintro (hdocument | ⟨document, loaded, hload, hrest⟩)
    · exact .document hdocument
    rcases Job.interrupts_bind.mp hrest with hderiving | ⟨bindings, bound, hderive, hrest'⟩
    · exact .deriving hload (interrupts_deriveBindings.mp hderiving)
    have hbound := (Job.perform_bind_of_ok hload).trans hderive
    rcases Job.interrupts_bind.mp hrest' with hmodules | ⟨⟨services, types⟩, rendered, hrender, hwrites⟩
    · rw [interrupts_renderModules, hfiles bindings bound hbound] at hmodules
      exact .modules hbound hmodules
    obtain ⟨hrendered, rfl⟩ := perform_renderModules_eq_ok_iff.mp hrender
    rw [hfiles bindings rendered hbound] at hrendered
    rcases interrupts_writeModules_bind.mp hwrites with
      houtput | ⟨paths, written, hwritten, hformat, hgarbled, rfl⟩
    · exact .output hbound hrendered houtput
    · exact .formatting hbound hrendered hwritten hformat hgarbled
  · -- a stage is interrupted after those in front of it
    have hstage : ∀ bindings bound, (loadDocument settings.docUrl follow >>= deriveBindings settings).perform
        s scene = (.ok bindings, bound) → (do
          let modules ← renderModules settings bindings
          let written ← writeFiles settings.outputDir (moduleFiles settings modules.1 modules.2)
          concludeRun settings bindings written).Interrupts s bound failure →
        ∃ document loaded, (loadDocument settings.docUrl follow).perform s scene = (.ok document, loaded) ∧
          (do
            let bindings ← deriveBindings settings document
            let modules ← renderModules settings bindings
            let written ← writeFiles settings.outputDir (moduleFiles settings modules.1 modules.2)
            concludeRun settings bindings written).Interrupts s loaded failure := by
      intro bindings bound hbound h
      obtain ⟨document, loaded, hload, hderive⟩ := Job.ok_of_perform_bind hbound
      exact ⟨document, loaded, hload, Job.interrupts_bind.mpr (.inr ⟨bindings, bound, hderive, h⟩)⟩
    rintro (hdocument | ⟨hload, hderiving⟩ | ⟨hbound, hmodules⟩ | ⟨hbound, hrendered, houtput⟩ |
      ⟨hbound, hrendered, hwritten, hformat, hgarbled⟩)
    · exact .inl hdocument
    · exact .inr ⟨_, _, hload, Job.interrupts_bind.mpr (.inl (interrupts_deriveBindings.mpr hderiving))⟩
    · rw [← hfiles _ _ hbound] at hmodules
      exact .inr (hstage _ _ hbound (Job.interrupts_bind.mpr (.inl (interrupts_renderModules.mpr hmodules))))
    · rw [← hfiles _ _ hbound] at hrendered
      refine .inr (hstage _ _ hbound (Job.interrupts_bind.mpr (.inr ⟨(_, _), _,
        perform_renderModules_eq_ok_iff.mpr ⟨hrendered, rfl⟩, ?_⟩)))
      exact interrupts_writeModules_bind.mpr (.inl houtput)
    · rw [← hfiles _ _ hbound] at hrendered
      refine .inr (hstage _ _ hbound (Job.interrupts_bind.mpr (.inr ⟨(_, _), _,
        perform_renderModules_eq_ok_iff.mpr ⟨hrendered, rfl⟩, ?_⟩)))
      exact interrupts_writeModules_bind.mpr (.inr ⟨_, _, hwritten, hformat, hgarbled, rfl⟩)

end ServiceBindings
