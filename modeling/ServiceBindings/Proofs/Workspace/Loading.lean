import ServiceBindings.Proofs.Workspace.Interrupts

/-! # What interrupts loading

* Loading settings is interrupted by a path that the system cannot be asked about, by bytes that are no text,
  and by a text that is not read for another reason than being malformed (`interrupts_loadSettings`).
* Loading the document is interrupted by these, by what the client of the web does not expect, and by a version
  with too many digits (`interrupts_loadDocument`). -/

namespace ServiceBindings

variable {s : Surroundings} {scene after : Scene} {failure : Failure}

/-! ## Loading settings -/

/-- That a settings file cannot be read is about the settings. -/
theorem isAbout_settingsUnreadable (path : Path) : IsAbout (.settingsUnreadable path) .settings :=
  fun _ => rfl

/-- That a settings file is malformed is about the settings. -/
theorem isAbout_settingsMalformed (path : Path) : IsAbout (.settingsMalformed path) .settings :=
  fun _ => rfl

/-- What the text of a settings file is read as. -/
def settingsContent (r : Readers) (path : Path) (text : String) : Except Document.Fault Value :=
  if Text.asciiLower path.suffix = ".json" then Document.readJson r text else Document.readYaml r text

/-- **What interrupts loading settings** from the file at a path. -/
inductive SettingsInterrupt (s : Surroundings) (files : FileSystem) (path : Path) : Failure → Prop
  /-- The system cannot be asked about the path. -/
  | path {fault : FileFault} (h : s.Refuses path fault) :
      SettingsInterrupt s files path (.settingsUnreadable path (.file fault))
  /-- The file holds no text. -/
  | undecodable (h : s.IsGarbled files path) : SettingsInterrupt s files path .undecodable
  /-- The text of the file is not read, for another reason than being malformed: there is no such value as it
  writes, or it is beyond a limit. -/
  | content {text : String} {fault : Document.Fault} (htext : s.IsText files path text)
      (h : settingsContent s.readers path text = .error fault) (hfault : fault.isReported = false) :
      SettingsInterrupt s files path (.settingsMalformed path (.content fault))

/-- The entries of a settings file with a value. -/
def settingsEntries (path : Path) (payload : Value) : Job (List (Scalar × Value)) :=
  match payload with
  | .scalar .null => return []
  | .map entries => return entries
  | _ => throw (.settingsNotMapping path payload.kindName)

/-- The steps of loading settings. -/
theorem loadSettings_eq (path : Path) : loadSettings path = (do
    let text ← Job.readText path (.settingsUnreadable path)
    let s ← read
    let payload ← Job.readValue (.settingsMalformed path) (settingsContent s.readers path text)
    settingsEntries path payload) := rfl

/-- Finding the entries of a settings file is never interrupted. -/
theorem reports_settingsEntries (path : Path) (payload : Value) : (settingsEntries path payload).Reports := by
  unfold settingsEntries
  split
  · exact (Job.succeeds_pure _).reports
  · exact (Job.succeeds_pure _).reports
  · exact Job.reports_throw nofun

/-- **Loading settings is interrupted** by these. -/
theorem interrupts_loadSettings {path : Path} : (loadSettings path).Interrupts s scene failure ↔
    SettingsInterrupt s scene.files path failure := by
  -- once there is a text, only what it is read as interrupts
  have hcontent : ∀ text between, (do
        let s ← read
        let payload ← Job.readValue (.settingsMalformed path) (settingsContent s.readers path text)
        settingsEntries path payload : Job _).Interrupts s between failure ↔
      ∃ fault, settingsContent s.readers path text = .error fault ∧ fault.isReported = false ∧
        failure = .settingsMalformed path (.content fault) := by
    intro text between
    rw [Job.interrupts_bind_of_ok Job.perform_read,
      Job.interrupts_bind_of_reports (reports_settingsEntries path),
      (isAbout_settingsMalformed path).interrupts_readValue]
  rw [loadSettings_eq, Job.interrupts_bind, (isAbout_settingsUnreadable path).interrupts_readText]
  constructor
  · rintro ((⟨fault, hrefused, rfl⟩ | ⟨hgarbled, rfl⟩) | ⟨text, between, htext, h⟩)
    · exact .path hrefused
    · exact .undecodable hgarbled
    · obtain ⟨htext, rfl⟩ := Job.perform_readText_eq_ok_iff.mp htext
      obtain ⟨fault, hread, hfault, rfl⟩ := (hcontent text between).mp h
      exact .content htext hread hfault
  · rintro (hrefused | hgarbled | ⟨htext, hread, hfault⟩)
    · exact Or.inl (Or.inl ⟨_, hrefused, rfl⟩)
    · exact Or.inl (Or.inr ⟨hgarbled, rfl⟩)
    · exact Or.inr ⟨_, scene, Job.perform_readText_eq_ok_iff.mpr ⟨htext, rfl⟩,
        (hcontent _ scene).mpr ⟨_, hread, hfault, rfl⟩⟩

/-! ## Loading the document -/

/-- The text of the document at a location: what a file holds, or what the client of the web fetches. -/
inductive IsDocumentText (s : Surroundings) (files : FileSystem) (location : String) (follow : Bool)
    (text : String) : Prop
  /-- A file holds the text. -/
  | file (hlocal : Document.isRemote location = false) (h : s.IsText files (.ofText location) text)
  /-- The client fetches the text. -/
  | web (hremote : Document.isRemote location = true) (h : (s.client follow location).2 = .ok text)

/-- What interrupts reading the text of the document at a location. -/
inductive SourceInterrupt (s : Surroundings) (files : FileSystem) (location : String) (follow : Bool) :
    Failure → Prop
  /-- The system cannot be asked about the path. -/
  | path {fault : FileFault} (hlocal : Document.isRemote location = false)
      (h : s.Refuses (.ofText location) fault) :
      SourceInterrupt s files location follow (.documentUnreadable (.ofText location) (.file fault))
  /-- The file holds no text. -/
  | undecodable (hlocal : Document.isRemote location = false) (h : s.IsGarbled files (.ofText location)) :
      SourceInterrupt s files location follow .undecodable
  /-- The client comes to what it does not expect. -/
  | web {fault : WebFault} (hremote : Document.isRemote location = true)
      (h : (s.client follow location).2 = .error fault) (hfault : fault.isReported = false) :
      SourceInterrupt s files location follow (.documentNotFetched location fault)

/-- **What interrupts loading the document** at a location. -/
inductive DocumentInterrupt (s : Surroundings) (files : FileSystem) (location : String) (follow : Bool) :
    Failure → Prop
  /-- Its text cannot be read. -/
  | source {failure : Failure} (h : SourceInterrupt s files location follow failure) :
      DocumentInterrupt s files location follow failure
  /-- Its text is not read as a value, for another reason than being malformed. -/
  | content {text : String} {fault : Document.Fault} (htext : IsDocumentText s files location follow text)
      (h : Document.read s.readers text = .error fault) (hfault : fault.isReported = false) :
      DocumentInterrupt s files location follow (.documentMalformed location (.content fault))
  /-- Its version begins with a number that is too long. -/
  | version {text : String} {entries : List (Scalar × Value)} {error : VersionError}
      (htext : IsDocumentText s files location follow text)
      (hread : Document.read s.readers text = .ok (.map entries))
      (h : Document.checkVersion (.map entries) = .error error) (herror : error.isReported = false) :
      DocumentInterrupt s files location follow (.documentVersion error)

/-- Recording a request never fails. -/
theorem succeeds_recordExchange (e : Exchange) : (recordExchange e).Succeeds := by
  intro s scene
  unfold recordExchange
  rw [Job.perform_bind_of_ok (Job.perform_modify _)]
  cases e.status with
  | none => exact ⟨_, _, rfl⟩
  | some status => exact Job.succeeds_log _ _ _ s _

/-- Fetching a text is ending as the client does. -/
theorem exists_fetchText_eq (location : String) (follow : Bool) (s : Surroundings) (scene : Scene) :
    ∃ recorded, (fetchText location follow).perform s scene =
      (Job.ofExcept (.documentNotFetched location) (s.client follow location).2).perform s recorded := by
  obtain ⟨_, recorded, hrecord⟩ :=
    Job.succeeds_forM (s.client follow location).1 succeeds_recordExchange s scene
  refine ⟨recorded, ?_⟩
  unfold fetchText
  rw [Job.perform_bind_of_ok Job.perform_read]
  dsimp only
  rw [Job.perform_bind_of_ok hrecord]

/-- Fetching a text is interrupted by what the client does not expect. -/
theorem interrupts_fetchText {location : String} {follow : Bool} :
    (fetchText location follow).Interrupts s scene failure ↔
      ∃ fault, (s.client follow location).2 = .error fault ∧ fault.isReported = false ∧
        failure = .documentNotFetched location fault := by
  obtain ⟨recorded, hrun⟩ := exists_fetchText_eq location follow s scene
  rw [Job.Interrupts, hrun]
  refine Job.interrupts_ofExcept.trans ?_
  simp [Failure.area?]

/-- Fetching a text succeeds with what the client fetches. -/
theorem exists_perform_fetchText_iff {location text : String} {follow : Bool} :
    (∃ after, (fetchText location follow).perform s scene = (.ok text, after)) ↔
      (s.client follow location).2 = .ok text := by
  obtain ⟨recorded, hrun⟩ := exists_fetchText_eq location follow s scene
  rw [hrun]
  simp [Job.perform_ofExcept_eq_ok_iff]

/-- That the file of a document cannot be read is about loading it. -/
theorem isAbout_documentUnreadable (path : Path) : IsAbout (.documentUnreadable path) .loading :=
  fun _ => rfl

/-- That a document is malformed is about loading it. -/
theorem isAbout_documentMalformed (location : String) : IsAbout (.documentMalformed location) .loading :=
  fun _ => rfl

/-- Read the text of the document at a location. -/
def documentText (location : String) (follow : Bool) : Job String :=
  if Document.isRemote location then fetchText location follow
  else Job.readText (.ofText location) (.documentUnreadable (.ofText location))

/-- Reading the text of the document is interrupted by these. -/
theorem interrupts_documentText {location : String} {follow : Bool} :
    (documentText location follow).Interrupts s scene failure ↔
      SourceInterrupt s scene.files location follow failure := by
  unfold documentText
  split
  · next hremote =>
      rw [interrupts_fetchText]
      constructor
      · rintro ⟨fault, hfetch, hfault, rfl⟩
        exact .web hremote hfetch hfault
      · rintro (⟨hlocal, -⟩ | ⟨hlocal, -⟩ | ⟨-, hfetch, hfault⟩)
        · simp [hremote] at hlocal
        · simp [hremote] at hlocal
        · exact ⟨_, hfetch, hfault, rfl⟩
  · next hlocal =>
      rw [Bool.not_eq_true] at hlocal
      rw [(isAbout_documentUnreadable _).interrupts_readText]
      constructor
      · rintro (⟨fault, hrefused, rfl⟩ | ⟨hgarbled, rfl⟩)
        · exact .path hlocal hrefused
        · exact .undecodable hlocal hgarbled
      · rintro (⟨-, hrefused⟩ | ⟨-, hgarbled⟩ | ⟨hremote, -⟩)
        · exact Or.inl ⟨_, hrefused, rfl⟩
        · exact Or.inr ⟨hgarbled, rfl⟩
        · simp [hlocal] at hremote

/-- Reading the text of the document gives it. -/
theorem exists_perform_documentText_iff {location text : String} {follow : Bool} :
    (∃ after, (documentText location follow).perform s scene = (.ok text, after)) ↔
      IsDocumentText s scene.files location follow text := by
  unfold documentText
  split
  · next hremote =>
      rw [exists_perform_fetchText_iff]
      constructor
      · exact fun hfetch => .web hremote hfetch
      · rintro (⟨hlocal, -⟩ | ⟨-, hfetch⟩)
        · simp [hremote] at hlocal
        · exact hfetch
  · next hlocal =>
      rw [Bool.not_eq_true] at hlocal
      constructor
      · exact fun ⟨after, htext⟩ => .file hlocal (Job.perform_readText_eq_ok_iff.mp htext).1
      · rintro (⟨-, htext⟩ | ⟨hremote, -⟩)
        · exact ⟨scene, Job.perform_readText_eq_ok_iff.mpr ⟨htext, rfl⟩⟩
        · simp [hlocal] at hremote

/-- Accept the value of a document: it is a mapping, and of a version that is accepted. -/
def acceptDocument (location : String) (document : Value) : Job Value :=
  match document with
  | .map _ => do
      Job.ofExcept .documentVersion (Document.checkVersion document)
      Job.log .info .loading ("Loaded OpenAPI document from " ++ location ++ " (" ++
        toString (Document.pathCount document) ++ " paths)")
      return document
  | _ => throw (.documentNotMapping document.kindName)

/-- The steps of loading the document. -/
theorem loadDocument_eq (location : String) (follow : Bool) : loadDocument location follow = (do
    let text ← documentText location follow
    let s ← read
    let document ← Job.readValue (.documentMalformed location) (Document.read s.readers text)
    acceptDocument location document) := by
  unfold loadDocument documentText
  split <;> rfl

/-- Accepting a document is interrupted by a version with too many digits. -/
theorem interrupts_acceptDocument {location : String} {document : Value} :
    (acceptDocument location document).Interrupts s scene failure ↔
      ∃ entries error, document = .map entries ∧ Document.checkVersion document = .error error ∧
        error.isReported = false ∧ failure = .documentVersion error := by
  have hversion : ∀ error, (Failure.documentVersion error).area? = none ↔ error.isReported = false := by
    intro error
    simp [Failure.area?]
  unfold acceptDocument
  split
  · next entries =>
      have hconclude : ∀ u : Unit, (do
          Job.log .info .loading ("Loaded OpenAPI document from " ++ location ++ " (" ++
            toString (Document.pathCount (.map entries)) ++ " paths)")
          return Value.map entries : Job Value).Reports :=
        fun _ => (Job.succeeds_log _ _ _).reports.bind fun _ => (Job.succeeds_pure _).reports
      rw [Job.interrupts_bind_of_reports hconclude, Job.interrupts_ofExcept]
      simp only [hversion]
      exact ⟨fun ⟨error, h⟩ => ⟨entries, error, rfl, h⟩, fun ⟨_, error, _, h⟩ => ⟨error, h⟩⟩
  · next hnot =>
      have hreported : (Failure.documentNotMapping document.kindName).area? ≠ none := nofun
      refine Iff.intro (fun h => absurd h (Job.reports_throw hreported s scene failure)) ?_
      rintro ⟨entries, error, hentries, -⟩
      exact absurd hentries (hnot entries)

/-- **Loading the document is interrupted** by these. -/
theorem interrupts_loadDocument {location : String} {follow : Bool} :
    (loadDocument location follow).Interrupts s scene failure ↔
      DocumentInterrupt s scene.files location follow failure := by
  -- once there is a text, only what it is read as interrupts, or its version
  have hcontent : ∀ text between, (do
        let s ← read
        let document ← Job.readValue (.documentMalformed location) (Document.read s.readers text)
        acceptDocument location document : Job Value).Interrupts s between failure ↔
      (∃ fault, Document.read s.readers text = .error fault ∧ fault.isReported = false ∧
        failure = .documentMalformed location (.content fault)) ∨
      ∃ entries error, Document.read s.readers text = .ok (.map entries) ∧
        Document.checkVersion (.map entries) = .error error ∧ error.isReported = false ∧
        failure = .documentVersion error := by
    intro text between
    rw [Job.interrupts_bind_of_ok Job.perform_read, Job.interrupts_bind,
      (isAbout_documentMalformed location).interrupts_readValue]
    refine or_congr_right ⟨?_, ?_⟩
    · rintro ⟨document, accepted, hread, haccept⟩
      obtain ⟨entries, error, rfl, h⟩ := interrupts_acceptDocument.mp haccept
      exact ⟨entries, error, (Job.perform_ofExcept_eq_ok_iff.mp hread).1, h⟩
    · rintro ⟨entries, error, hread, h⟩
      exact ⟨_, between, Job.perform_ofExcept_eq_ok_iff.mpr ⟨hread, rfl⟩,
        interrupts_acceptDocument.mpr ⟨entries, error, rfl, h⟩⟩
  rw [loadDocument_eq, Job.interrupts_bind, interrupts_documentText]
  constructor
  · rintro (hsource | ⟨text, between, htext, h⟩)
    · exact .source hsource
    · have htext := exists_perform_documentText_iff.mp ⟨between, htext⟩
      rcases (hcontent text between).mp h with ⟨fault, hread, hfault, rfl⟩ |
        ⟨entries, error, hread, hversion, herror, rfl⟩
      · exact .content htext hread hfault
      · exact .version htext hread hversion herror
  · rintro (hsource | ⟨htext, hread, hfault⟩ | ⟨htext, hread, hversion, herror⟩)
    · exact Or.inl hsource
    · obtain ⟨between, htext⟩ := exists_perform_documentText_iff.mpr htext
      exact Or.inr ⟨_, between, htext, (hcontent _ between).mpr (Or.inl ⟨_, hread, hfault, rfl⟩)⟩
    · obtain ⟨between, htext⟩ := exists_perform_documentText_iff.mpr htext
      exact Or.inr ⟨_, between, htext, (hcontent _ between).mpr (Or.inr ⟨_, _, hread, hversion, herror, rfl⟩)⟩

end ServiceBindings
