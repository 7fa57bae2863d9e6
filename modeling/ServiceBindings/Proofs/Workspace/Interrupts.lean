import ServiceBindings.Proofs.Workspace.Effects

/-! # Failures that interrupt a run

Most failures are about an area of the program and are reported. A job that ends with another failure is
**interrupted** (`Job.Interrupts`). Of two jobs one after the other, the first is interrupted, or the second
after the first succeeded (`Job.interrupts_bind`), so that what interrupts a job is known from its parts.

Reading a file is interrupted by bytes that are no text (`Job.interrupts_readText`), and where its faults are
reported as those of an area (`IsAbout`), by a path that the system cannot be asked about
(`IsAbout.interrupts_readText`). -/

namespace ServiceBindings

variable {α β : Type} {s : Surroundings} {scene after : Scene} {failure : Failure}

namespace Job

/-- **A job is interrupted**: it ends with a failure that is not reported. -/
def Interrupts (job : Job α) (s : Surroundings) (scene : Scene) (failure : Failure) : Prop :=
  failure.area? = none ∧ (job.perform s scene).1 = .error failure

/-- A job is never interrupted. -/
def Reports (job : Job α) : Prop := ∀ s scene failure, ¬ job.Interrupts s scene failure

/-- A job never fails. -/
def Succeeds (job : Job α) : Prop := ∀ s scene, ∃ a after, job.perform s scene = (.ok a, after)

variable {job : Job α} {next : α → Job β}

/-- **Two jobs one after the other are interrupted** in the first, or in the second after the first. -/
theorem interrupts_bind : (job >>= next).Interrupts s scene failure ↔
    job.Interrupts s scene failure ∨
      ∃ a between, job.perform s scene = (.ok a, between) ∧ (next a).Interrupts s between failure := by
  constructor
  · rintro ⟨harea, hrun⟩
    rcases error_of_perform_bind (Prod.ext hrun rfl) with hjob | ⟨a, between, hjob, hnext⟩
    · exact Or.inl ⟨harea, congrArg Prod.fst hjob⟩
    · exact Or.inr ⟨a, between, hjob, harea, congrArg Prod.fst hnext⟩
  · rintro (⟨harea, hjob⟩ | ⟨a, between, hjob, harea, hnext⟩)
    · exact ⟨harea, congrArg Prod.fst (perform_bind_of_error (Prod.ext hjob rfl))⟩
    · exact ⟨harea, by rw [perform_bind_of_ok hjob, hnext]⟩

/-- After a job that succeeds, it is the next one that is interrupted. -/
theorem interrupts_bind_of_ok {a : α} (h : job.perform s scene = (.ok a, after)) :
    (job >>= next).Interrupts s scene failure ↔ (next a).Interrupts s after failure := by
  rw [Interrupts, Interrupts, perform_bind_of_ok h]

/-- After a job that is never interrupted, it is the next one that is. -/
theorem Reports.interrupts_bind (h : job.Reports) : (job >>= next).Interrupts s scene failure ↔
    ∃ a between, job.perform s scene = (.ok a, between) ∧ (next a).Interrupts s between failure := by
  rw [Job.interrupts_bind, or_iff_right (h s scene failure)]

/-- Before a job that is never interrupted, it is the first one that is. -/
theorem interrupts_bind_of_reports (h : ∀ a, (next a).Reports) :
    (job >>= next).Interrupts s scene failure ↔ job.Interrupts s scene failure := by
  rw [interrupts_bind, or_iff_left]
  rintro ⟨a, between, -, hnext⟩
  exact h a s between failure hnext

/-- Ending with a failure is an interruption unless the failure is reported. -/
theorem interrupts_throw {reason : Failure} : (throw reason : Job α).Interrupts s scene failure ↔
    reason.area? = none ∧ failure = reason := by
  rw [Interrupts, perform_throw]
  constructor
  · rintro ⟨harea, h⟩
    cases h
    exact ⟨harea, rfl⟩
  · rintro ⟨harea, rfl⟩
    exact ⟨harea, rfl⟩

/-- Ending with a fault is an interruption unless the failure for it is reported. -/
theorem interrupts_ofExcept {ε : Type} {reason : ε → Failure} {result : Except ε α} :
    (ofExcept reason result).Interrupts s scene failure ↔
      ∃ e, result = .error e ∧ (reason e).area? = none ∧ failure = reason e := by
  cases result with
  | ok a =>
      constructor
      · rintro ⟨-, h⟩
        cases h
      · rintro ⟨e, h, -⟩
        cases h
  | error e =>
      rw [ofExcept, interrupts_throw]
      constructor
      · exact fun h => ⟨e, rfl, h⟩
      · rintro ⟨e', h, hreason⟩
        cases h
        exact hreason

/-- Ending with a result or a fault succeeds exactly with the result, and changes nothing. -/
theorem perform_ofExcept_eq_ok_iff {ε : Type} {reason : ε → Failure} {result : Except ε α} {a : α} :
    (ofExcept reason result).perform s scene = (.ok a, after) ↔ result = .ok a ∧ after = scene := by
  cases result with
  | ok b =>
      show (Except.ok b, scene) = (.ok a, after) ↔ _
      simp [eq_comm]
  | error e =>
      show (Except.error (reason e), scene) = (.ok a, after) ↔ _
      simp

/-- A job that never fails is never interrupted. -/
theorem Succeeds.reports (h : job.Succeeds) : job.Reports := by
  rintro s scene failure ⟨-, hrun⟩
  obtain ⟨a, after, hok⟩ := h s scene
  rw [hok] at hrun
  cases hrun

/-- A result is no failure. -/
theorem succeeds_pure (a : α) : (pure a : Job α).Succeeds := fun _ scene => ⟨a, scene, rfl⟩

/-- Logging never fails. -/
theorem succeeds_log (level : LogLevel) (source : LogSource) (message : String) :
    (log level source message).Succeeds := fun _ _ => ⟨_, _, perform_log⟩

/-- A failure that is reported is no interruption. -/
theorem reports_throw (h : failure.area? ≠ none) : (throw failure : Job α).Reports :=
  fun _ _ _ hthrow => h (interrupts_throw.mp hthrow).1

/-- Faults that are reported are no interruption. -/
theorem reports_ofExcept {ε : Type} {reason : ε → Failure} (h : ∀ e, (reason e).area? ≠ none)
    (result : Except ε α) : (ofExcept reason result).Reports := by
  intro s scene failure hresult
  obtain ⟨e, -, harea, -⟩ := interrupts_ofExcept.mp hresult
  exact h e harea

/-- Two jobs that are never interrupted, one after the other. -/
theorem Reports.bind (h : job.Reports) (hnext : ∀ a, (next a).Reports) : (job >>= next).Reports :=
  fun s scene failure hrun => h s scene failure ((interrupts_bind_of_reports hnext).mp hrun)

/-- Jobs for the items of a list never fail if none of them does. -/
theorem succeeds_forM (items : List α) {f : α → Job PUnit} (h : ∀ a, (f a).Succeeds) :
    (items.forM f).Succeeds := by
  induction items with
  | nil => exact succeeds_pure _
  | cons a rest ih =>
      intro s scene
      obtain ⟨_, between, hfirst⟩ := h a s scene
      obtain ⟨u, after, hrest⟩ := ih s between
      exact ⟨u, after, (perform_bind_of_ok hfirst).trans hrest⟩

end Job

/-! ## Reading files -/

namespace Surroundings

/-- A path leads to a file whose bytes are no text. -/
def IsGarbled (s : Surroundings) (files : FileSystem) (p : Path) : Prop :=
  ∃ bytes, s.readFile files p = .ok bytes ∧ String.fromUTF8? bytes = none

/-- A path leads to a file with a text, apart from how line ends are written. -/
def IsText (s : Surroundings) (files : FileSystem) (p : Path) (text : String) : Prop :=
  ∃ bytes content, s.readFile files p = .ok bytes ∧ String.fromUTF8? bytes = some content ∧
    Text.withLineFeeds content = text

end Surroundings

namespace Job

variable {p : Path} {reason : Cause → Failure} {text : String}

/-- Decoding is interrupted by bytes that are no text. -/
theorem interrupts_decode {bytes : ByteArray} : (decode bytes).Interrupts s scene failure ↔
    String.fromUTF8? bytes = none ∧ failure = .undecodable := by
  unfold decode
  cases String.fromUTF8? bytes with
  | none =>
      rw [interrupts_throw]
      exact and_congr_left' ⟨fun _ => rfl, fun _ => rfl⟩
  | some content => exact ⟨fun h => absurd h ((succeeds_pure _).reports s scene failure), fun h => by simp at h⟩

/-- Decoding gives the text that bytes are, with line feeds for line ends. -/
theorem perform_decode_eq_ok_iff {bytes : ByteArray} :
    (decode bytes).perform s scene = (.ok text, after) ↔
      (∃ content, String.fromUTF8? bytes = some content ∧ Text.withLineFeeds content = text) ∧
        after = scene := by
  unfold decode
  cases String.fromUTF8? bytes with
  | none =>
      show (Except.error Failure.undecodable, scene) = (.ok text, after) ↔ _
      simp
  | some content =>
      show (Except.ok (Text.withLineFeeds content), scene) = (.ok text, after) ↔ _
      simp [eq_comm]

/-- Reading the bytes of a file gives them or the fault, and changes nothing. -/
theorem perform_readBytes (p : Path) :
    (readBytes p).perform s scene = (.ok (s.readFile scene.files p), scene) := rfl

/-- **Reading the text of a file is interrupted** by a fault that is not reported, or by bytes that are no
text. -/
theorem interrupts_readText : (readText p reason).Interrupts s scene failure ↔
    (∃ fault, s.readFile scene.files p = .error fault ∧ (reason (.file fault)).area? = none ∧
      failure = reason (.file fault)) ∨
    s.IsGarbled scene.files p ∧ failure = .undecodable := by
  unfold readText
  rw [interrupts_bind_of_ok (perform_readBytes p), interrupts_bind, interrupts_ofExcept]
  refine or_congr_right ?_
  constructor
  · rintro ⟨bytes, between, hread, hdecode⟩
    obtain ⟨hread, -⟩ := perform_ofExcept_eq_ok_iff.mp hread
    obtain ⟨hnone, hfailure⟩ := interrupts_decode.mp hdecode
    exact ⟨⟨bytes, hread, hnone⟩, hfailure⟩
  · rintro ⟨⟨bytes, hread, hnone⟩, hfailure⟩
    exact ⟨bytes, scene, perform_ofExcept_eq_ok_iff.mpr ⟨hread, rfl⟩,
      interrupts_decode.mpr ⟨hnone, hfailure⟩⟩

/-- Reading the text of a file gives the text that the file holds, and changes nothing. -/
theorem perform_readText_eq_ok_iff : (readText p reason).perform s scene = (.ok text, after) ↔
    s.IsText scene.files p text ∧ after = scene := by
  unfold readText
  rw [perform_bind_of_ok (perform_readBytes p)]
  constructor
  · intro h
    obtain ⟨bytes, between, hread, hdecode⟩ := ok_of_perform_bind h
    obtain ⟨hread, rfl⟩ := perform_ofExcept_eq_ok_iff.mp hread
    obtain ⟨hcontent, rfl⟩ := perform_decode_eq_ok_iff.mp hdecode
    obtain ⟨content, hcontent, htext⟩ := hcontent
    exact ⟨⟨bytes, content, hread, hcontent, htext⟩, rfl⟩
  · rintro ⟨⟨bytes, content, hread, hcontent, rfl⟩, rfl⟩
    rw [perform_bind_of_ok (perform_ofExcept_eq_ok_iff.mpr ⟨hread, rfl⟩)]
    exact perform_decode_eq_ok_iff.mpr ⟨⟨content, hcontent, rfl⟩, rfl⟩

end Job

/-- Failures about an area that arise from the faults the program expects. -/
def IsAbout (reason : Cause → Failure) (area : Failure.Area) : Prop :=
  ∀ cause, (reason cause).area? = if cause.isReported then some area else none

section About

variable {reason : Cause → Failure} {area : Failure.Area}

/-- A failure that arises from a cause is not reported exactly if the cause is not. -/
theorem IsAbout.area_eq_none_iff (h : IsAbout reason area) {cause : Cause} :
    (reason cause).area? = none ↔ cause.isReported = false := by
  rw [h]
  cases cause.isReported <;> simp

/-- Reading the text of a file is interrupted by a path that the system cannot be asked about, or by bytes
that are no text. -/
theorem IsAbout.interrupts_readText (h : IsAbout reason area) {p : Path} :
    (Job.readText p reason).Interrupts s scene failure ↔
      (∃ fault, s.Refuses p fault ∧ failure = reason (.file fault)) ∨
      s.IsGarbled scene.files p ∧ failure = .undecodable := by
  rw [Job.interrupts_readText]
  refine or_congr_left (exists_congr fun fault => ?_)
  rw [h.area_eq_none_iff, ← and_assoc]
  exact and_congr_left' Surroundings.readFile_unreported_iff

/-- Reading a value is interrupted by a fault that is not that of its text. -/
theorem IsAbout.interrupts_readValue (h : IsAbout reason area) {result : Except Document.Fault Value} :
    (Job.readValue reason result).Interrupts s scene failure ↔
      ∃ fault, result = .error fault ∧ fault.isReported = false ∧ failure = reason (.content fault) := by
  unfold Job.readValue
  rw [Job.interrupts_ofExcept]
  exact exists_congr fun fault => and_congr_right' (and_congr_left' h.area_eq_none_iff)

end About

end ServiceBindings
