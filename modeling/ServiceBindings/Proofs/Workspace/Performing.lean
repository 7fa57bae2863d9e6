import ServiceBindings.Workspace.Loading
import ServiceBindings.Generation

/-! # Performing jobs

What performing a job gives is known from its parts: of two jobs one after the other, the second is performed
in the scene that the first leaves, unless the first fails (`Job.perform_bind_cases`).

A job is **quiet** (`Job.Quiet`) if it leaves the files as they are and starts no command. Loading the
document, deriving its bindings and rendering the modules are quiet (`quiet_loadDocument`,
`quiet_deriveBindings`, `quiet_renderModules`), whatever they end with. -/

namespace ServiceBindings

namespace Job

variable {α β : Type} {job : Job α} {next : α → Job β} {s : Surroundings} {scene after : Scene}

/-! ## One job after the other -/

/-- A failure ends a job. -/
theorem perform_throw (failure : Failure) :
    (throw failure : Job α).perform s scene = (.error failure, scene) := rfl

/-- Looking at the scene gives it. -/
theorem perform_get : (get : Job Scene).perform s scene = (.ok scene, scene) := rfl

/-- Looking at the surroundings gives them. -/
theorem perform_read : (read : Job Surroundings).perform s scene = (.ok s, scene) := rfl

/-- Changing the scene changes it. -/
theorem perform_modify (f : Scene → Scene) :
    (modify f : Job PUnit).perform s scene = (.ok ⟨⟩, f scene) := rfl

/-- Logging a message puts it at the end of the log. -/
theorem perform_log {level : LogLevel} {source : LogSource} {message : String} :
    (log level source message).perform s scene =
      (.ok (), { scene with log := scene.log ++ [⟨level, source, message⟩] }) := rfl

/-- After a job that succeeds the next one is performed. -/
theorem perform_bind_of_ok {a : α} (h : job.perform s scene = (.ok a, after)) :
    (job >>= next).perform s scene = (next a).perform s after := by
  show (ExceptT.bind (job s) fun a => next a s) scene = _
  have hrun : job s scene = (.ok a, after) := h
  rw [ExceptT.bind, ExceptT.mk]
  show (StateT.bind (job s) _) scene = _
  rw [StateT.bind, hrun]
  rfl

/-- After a job that fails nothing more is done. -/
theorem perform_bind_of_error {failure : Failure} (h : job.perform s scene = (.error failure, after)) :
    (job >>= next).perform s scene = (.error failure, after) := by
  show (ExceptT.bind (job s) fun a => next a s) scene = _
  have hrun : job s scene = (.error failure, after) := h
  rw [ExceptT.bind, ExceptT.mk]
  show (StateT.bind (job s) _) scene = _
  rw [StateT.bind, hrun]
  rfl

/-- Of two jobs one after the other, the first fails and is the last, or the second is performed in the
scene that the first leaves. -/
theorem perform_bind_cases (job : Job α) (next : α → Job β) (s : Surroundings) (scene : Scene) :
    (∃ failure after, job.perform s scene = (.error failure, after) ∧
      (job >>= next).perform s scene = (.error failure, after)) ∨
    ∃ a after, job.perform s scene = (.ok a, after) ∧
      (job >>= next).perform s scene = (next a).perform s after := by
  rcases h : job.perform s scene with ⟨failure | a, after⟩
  · exact Or.inl ⟨failure, after, rfl, perform_bind_of_error h⟩
  · exact Or.inr ⟨a, after, rfl, perform_bind_of_ok h⟩

/-- If two jobs one after the other succeed, both do. -/
theorem ok_of_perform_bind {b : β} (h : (job >>= next).perform s scene = (.ok b, after)) :
    ∃ a between, job.perform s scene = (.ok a, between) ∧ (next a).perform s between = (.ok b, after) := by
  rcases perform_bind_cases job next s scene with ⟨failure, between, -, hwhole⟩ | ⟨a, between, hrun, hwhole⟩
  · rw [hwhole] at h
    cases h
  · exact ⟨a, between, hrun, hwhole.symm.trans h⟩

/-- If two jobs one after the other fail, the first fails or the second does after it. -/
theorem error_of_perform_bind {failure : Failure}
    (h : (job >>= next).perform s scene = (.error failure, after)) :
    job.perform s scene = (.error failure, after) ∨
      ∃ a between, job.perform s scene = (.ok a, between) ∧
        (next a).perform s between = (.error failure, after) := by
  rcases perform_bind_cases job next s scene with ⟨failure', between, hrun, hwhole⟩ | ⟨a, between, hrun, hwhole⟩
  · rw [hwhole] at h
    cases h
    exact Or.inl hrun
  · exact Or.inr ⟨a, between, hrun, hwhole.symm.trans h⟩

/-- A transitive relation of scenes that two jobs keep is kept by the one after the other. -/
theorem relates_bind {R : Scene → Scene → Prop}
    (htrans : ∀ {before between after}, R before between → R between after → R before after)
    (h : ∀ scene, R scene (job.perform s scene).2)
    (hnext : ∀ a scene, R scene ((next a).perform s scene).2) (scene : Scene) :
    R scene ((job >>= next).perform s scene).2 := by
  have hjob := h scene
  rcases perform_bind_cases job next s scene with ⟨failure, after, hrun, hwhole⟩ | ⟨a, after, hrun, hwhole⟩
  · rw [hrun] at hjob
    rw [hwhole]
    exact hjob
  · rw [hrun] at hjob
    rw [hwhole]
    exact htrans hjob (hnext a after)

/-! ## Quiet jobs -/

/-- Two scenes have the same files and the same started commands. -/
structure SameEffects (before after : Scene) : Prop where
  /-- The files are the same. -/
  files : after.files = before.files
  /-- The commands are the same. -/
  commands : after.commands = before.commands

/-- A job leaves the files as they are and starts no command, whether it succeeds or fails. -/
def Quiet (job : Job α) : Prop := ∀ s scene, SameEffects scene (job.perform s scene).2

/-- Nothing differs from itself. -/
theorem SameEffects.refl (scene : Scene) : SameEffects scene scene := ⟨rfl, rfl⟩

/-- What is the same in two steps is the same in one. -/
theorem SameEffects.trans {between : Scene} (h : SameEffects scene between)
    (h' : SameEffects between after) : SameEffects scene after :=
  ⟨h'.files.trans h.files, h'.commands.trans h.commands⟩

/-- A result is quiet. -/
theorem quiet_pure (a : α) : (pure a : Job α).Quiet := fun _ scene => .refl scene

/-- A failure is quiet. -/
theorem quiet_throw (failure : Failure) : (throw failure : Job α).Quiet := fun _ scene => .refl scene

/-- Quiet jobs one after the other. -/
theorem Quiet.bind (h : job.Quiet) (hnext : ∀ a, (next a).Quiet) : (job >>= next).Quiet :=
  fun s => relates_bind SameEffects.trans (h s) fun a => hnext a s

/-- Looking at the scene is quiet. -/
theorem quiet_get : (get : Job Scene).Quiet := fun _ scene => .refl scene

/-- Looking at the surroundings is quiet. -/
theorem quiet_read : (read : Job Surroundings).Quiet := fun _ scene => .refl scene

/-- Logging is quiet. -/
theorem quiet_log (level : LogLevel) (source : LogSource) (message : String) :
    (log level source message).Quiet := fun _ _ => ⟨rfl, rfl⟩

/-- Ending with a result or a failure is quiet. -/
theorem quiet_ofExcept {ε : Type} (failure : ε → Failure) (result : Except ε α) :
    (ofExcept failure result).Quiet := by
  cases result with
  | ok a => exact quiet_pure a
  | error e => exact quiet_throw (failure e)

/-- Quiet jobs for the items of a list. -/
theorem quiet_forM {items : List α} {f : α → Job PUnit} (h : ∀ a ∈ items, (f a).Quiet) :
    (items.forM f).Quiet := by
  induction items with
  | nil => exact quiet_pure _
  | cons a rest ih =>
      show (f a >>= fun _ => rest.forM f).Quiet
      exact (h a List.mem_cons_self).bind fun _ => ih fun b hb => h b (List.mem_cons_of_mem _ hb)

/-- Reading the bytes of a file is quiet. -/
theorem quiet_readBytes (p : Path) : (readBytes p).Quiet :=
  quiet_read.bind fun _ => quiet_get.bind fun _ => quiet_pure _

/-- Decoding is quiet. -/
theorem quiet_decode (bytes : ByteArray) : (decode bytes).Quiet := by
  unfold decode
  split
  · exact quiet_pure _
  · exact quiet_throw _

/-- Reading the text of a file is quiet. -/
theorem quiet_readText (p : Path) (failure : Cause → Failure) : (readText p failure).Quiet :=
  (quiet_readBytes p).bind fun _ => (quiet_ofExcept _ _).bind fun _ => quiet_decode _

end Job

open Job (Quiet)

/-! ## Loading the document -/

/-- Recording a request is quiet. -/
theorem quiet_recordExchange (e : Exchange) : (recordExchange e).Quiet := by
  have hrecord : (modify fun scene => { scene with requests := scene.requests ++ [e.url] } :
      Job PUnit).Quiet := fun _ _ => ⟨rfl, rfl⟩
  unfold recordExchange
  refine hrecord.bind fun _ => ?_
  split
  · exact Job.quiet_log _ _ _
  · exact Job.quiet_pure _

/-- Fetching a text is quiet. -/
theorem quiet_fetchText (location : String) (follow : Bool) : (fetchText location follow).Quiet := by
  refine Job.quiet_read.bind fun s => ?_
  exact (Job.quiet_forM fun e _ => quiet_recordExchange e).bind fun _ => Job.quiet_ofExcept _ _

/-- **Loading the document is quiet.** -/
theorem quiet_loadDocument (location : String) (follow : Bool) :
    (loadDocument location follow).Quiet := by
  unfold loadDocument
  -- the text is read from one of two places, and what follows is the same for both
  extract_lets finish
  have hfinish : ∀ text, (finish text).Quiet := by
    intro text
    refine Job.quiet_read.bind fun s => (Job.quiet_ofExcept _ _).bind fun document => ?_
    split
    · exact (Job.quiet_ofExcept _ _).bind fun _ => (Job.quiet_log _ _ _).bind fun _ => Job.quiet_pure _
    · exact Job.quiet_throw _
  split
  · exact (quiet_fetchText location follow).bind hfinish
  · exact (Job.quiet_readText _ _).bind hfinish

/-! ## Deriving and rendering -/

/-- **Deriving the bindings is quiet.** -/
theorem quiet_deriveBindings (settings : Settings) (document : Value) :
    (deriveBindings settings document).Quiet := by
  refine Job.quiet_read.bind fun s => ?_
  split
  · exact Job.quiet_throw _
  · refine (Job.quiet_ofExcept _ _).bind fun bindings => ?_
    exact (Job.quiet_forM fun _ _ => Job.quiet_log _ _ _).bind fun _ => Job.quiet_pure _

/-- Looking for templates is quiet. -/
theorem quiet_ensureTemplates (directory : Path) (templates : List Template) :
    (ensureTemplates directory templates).Quiet := by
  induction templates with
  | nil => exact Job.quiet_pure _
  | cons t rest ih =>
      unfold ensureTemplates
      refine (Job.quiet_readBytes _).bind fun found => ?_
      split
      · exact ih
      · exact Job.quiet_throw _
      · exact Job.quiet_throw _

/-- Having a template rendered is quiet. -/
theorem quiet_renderTemplate (directory : Path) (context : RenderContext) (t : Template) :
    (renderTemplate directory context t).Quiet :=
  Job.quiet_read.bind fun _ => Job.quiet_get.bind fun _ => Job.quiet_ofExcept _ _

/-- Having a module rendered is quiet. -/
theorem quiet_renderFrom (directory : Path) (m : ModuleTemplates) (context : RenderContext) :
    (renderFrom directory m context).Quiet :=
  (quiet_ensureTemplates _ _).bind fun _ => (quiet_renderTemplate _ _ _).bind fun _ =>
    (quiet_renderTemplate _ _ _).bind fun _ => Job.quiet_pure _

/-- **Rendering the modules is quiet.** -/
theorem quiet_renderModules (settings : Settings) (bindings : Bindings) :
    (renderModules settings bindings).Quiet := by
  unfold renderModules
  split
  · exact Job.quiet_pure _
  · exact (quiet_renderFrom _ _ _).bind fun _ => (quiet_renderFrom _ _ _).bind fun _ =>
      Job.quiet_pure _

end ServiceBindings
