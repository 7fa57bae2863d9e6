import ServiceBindings.Proofs.Workspace.Performing
import ServiceBindings.Proofs.Workspace.Places

/-! # What a run of the generator changes

A run is **contained** (`Contained`): only the two generated files change, and directories appear only at the
output directory and above; a failure about anything but the output leaves all files as they were and starts
no command; and the formatter is started only after both files were written.

Everything up to rendering is quiet, so this is a matter of what writing (`writes_writeFiles`) and formatting
(`formats_formatFiles`) do. Some failures are about no area although files may have been changed before them
(`Unwritten`): that the system cannot be asked about the path of a module is noticed only when the module is
to be written, after the output directory was made and perhaps the other module written
(`exists_changed_generate`), and a text that cannot be encoded leaves its file empty. One more comes after the
formatter was started, if what it wrote is no text. Up to these every run is contained (`contained_generate`). -/

namespace ServiceBindings

variable {α β : Type} {s : Surroundings} {before between after : Scene}
variable {directories files : Location → Prop} {directory : Path}

/-! ## Paths that the system cannot be asked about -/

namespace Surroundings

/-- The place that a path leads to, whatever stands on the way. -/
def place (s : Surroundings) (p : Path) : Location := (s.systemPath p).place s.workingPlace

/-- **The system cannot be asked about a path**: it cannot be encoded, or it holds the null character. -/
inductive Refuses (s : Surroundings) (p : Path) : FileFault → Prop
  /-- It cannot be encoded. -/
  | unencodable (h : s.encodesPath p = false) : Refuses s p .unencodable
  /-- It holds the null character. -/
  | nullCharacter (h : s.encodesPath p = true) (hnull : p.HasNull) : Refuses s p .nullCharacter

variable {p : Path} {fault : FileFault} {fs : FileSystem}

/-- The system is asked about the null character exactly if the path holds it. -/
theorem hasNull_systemPath_iff (h : s.encodesPath p = true) : (s.systemPath p).HasNull ↔ p.HasNull :=
  SurrogateBlock.hasNull_ofPath_iff h

/-- A path is refused with a fault that does not come from the system. -/
theorem Refuses.isReported_eq (h : s.Refuses p fault) : fault.isReported = false := by
  cases h <;> rfl

/-- An operation on a path that can be encoded is refused for the null character, and on one that cannot be
encoded for that. -/
theorem unreported_iff_refuses {result : Except FileFault α}
    (h : ∀ fault, result = .error fault ∧ fault.isReported = false ↔
      (s.systemPath p).HasNull ∧ fault = .nullCharacter) :
    (if s.encodesPath p then result else .error .unencodable) = .error fault ∧ fault.isReported = false ↔
      s.Refuses p fault := by
  split
  · next hencodes =>
      rw [h fault, hasNull_systemPath_iff hencodes]
      constructor
      · rintro ⟨hnull, rfl⟩
        exact .nullCharacter hencodes hnull
      · rintro (hno | ⟨-, hnull⟩)
        · rw [hno] at hencodes
          cases hencodes
        · exact ⟨hnull, rfl⟩
  · next hencodes =>
      rw [Bool.not_eq_true] at hencodes
      constructor
      · rintro ⟨heq, -⟩
        cases heq
        exact .unencodable hencodes
      · rintro (_ | ⟨hyes, -⟩)
        · exact ⟨rfl, rfl⟩
        · rw [hencodes] at hyes
          cases hyes

/-- Reading has a fault that does not come from the system exactly if the path is refused. -/
theorem readFile_unreported_iff :
    s.readFile fs p = .error fault ∧ fault.isReported = false ↔ s.Refuses p fault :=
  unreported_iff_refuses fun _ => FileSystem.read_unreported_iff

/-- Writing has a fault that does not come from the system exactly if the path is refused. -/
theorem writeFile_unreported_iff {bytes : ByteArray} :
    s.writeFile fs p bytes = .error fault ∧ fault.isReported = false ↔ s.Refuses p fault :=
  unreported_iff_refuses fun _ => FileSystem.write_unreported_iff

/-- With a path that is refused no directory is made. -/
theorem Refuses.ensureDir_eq (h : s.Refuses p fault) : s.ensureDir fs p = (fs, .error fault) := by
  unfold ensureDir
  cases h with
  | unencodable hencodes => rw [if_neg (by rw [hencodes]; exact Bool.false_ne_true)]
  | nullCharacter hencodes hnull =>
      rw [if_pos hencodes, FileSystem.ensureDir_of_hasNull ((hasNull_systemPath_iff hencodes).mpr hnull)]

/-- Making directories has a fault that does not come from the system exactly if the path is refused. -/
theorem ensureDir_unreported_iff :
    (s.ensureDir fs p).2 = .error fault ∧ fault.isReported = false ↔ s.Refuses p fault := by
  refine ⟨fun ⟨h, hfault⟩ => ?_, fun h => ⟨congrArg Prod.snd h.ensureDir_eq, h.isReported_eq⟩⟩
  unfold ensureDir at h
  split at h
  · next hencodes =>
      obtain ⟨hnull, rfl⟩ := FileSystem.hasNull_of_ensureDir h hfault
      exact .nullCharacter hencodes ((hasNull_systemPath_iff hencodes).mp hnull)
  · next hencodes =>
      cases h
      exact .unencodable (Bool.not_eq_true _ ▸ hencodes)

/-- A file that was written was written at its path. -/
theorem write_of_writeFile {bytes : ByteArray} {after : FileSystem} (h : s.writeFile fs p bytes = .ok after) :
    fs.write s.workingPlace (s.systemPath p) bytes = .ok after := by
  unfold writeFile at h
  split at h
  · exact h
  · cases h

/-- Making a directory and the ones above it makes directories at the places of the beginnings of its path. -/
theorem frame_ensureDir
    (hdirs : ∀ names, names <+: p.names → directories (s.place ⟨p.root, names⟩)) :
    FileSystem.Frame directories files fs (s.ensureDir fs p).1 := by
  unfold ensureDir
  split
  · refine FileSystem.frame_ensureDir fun names hnames => ?_
    obtain ⟨front, hfront, rfl⟩ := List.prefix_map_iff.mp hnames
    exact hdirs front hfront
  · exact .refl fs

end Surroundings

/-! ## Writing -/

/-- **What writing does**: files change within a frame, and no command is started. -/
structure Writes (directories files : Location → Prop) (before after : Scene) : Prop where
  /-- Files change within the frame. -/
  frame : FileSystem.Frame directories files before.files after.files
  /-- No command is started. -/
  commands : after.commands = before.commands

/-- Writing nothing changes nothing. -/
theorem Writes.refl (scene : Scene) : Writes directories files scene scene := ⟨.refl _, rfl⟩

/-- What is written in two steps may be written in one. -/
theorem Writes.trans (h : Writes directories files before between)
    (h' : Writes directories files between after) : Writes directories files before after :=
  ⟨h.frame.trans h'.frame, h'.commands.trans h.commands⟩

/-- Making the output directory gives the files and the result that making directories gives. -/
theorem perform_makeOutputDir (directory : Path) :
    (makeOutputDir directory).perform s before =
      ((s.ensureDir before.files directory).2.mapError
          (fun fault => .directoryNotMade directory (.file fault)),
        { before with files := (s.ensureDir before.files directory).1 }) := by
  unfold makeOutputDir
  rw [Job.perform_bind_of_ok Job.perform_get, Job.perform_bind_of_ok Job.perform_read]
  rcases s.ensureDir before.files directory with ⟨files, fault | ⟨⟩⟩ <;> rfl

/-- Writing bytes gives the files that writing them gives. -/
theorem perform_writeBytes (path : Path) (bytes : ByteArray) :
    (writeBytes path bytes).perform s before =
      match s.writeFile before.files path bytes with
      | .ok files => (.ok (), { before with files })
      | .error fault => (.error (.fileNotWritten path (.file fault)), before) := by
  unfold writeBytes
  rw [Job.perform_bind_of_ok Job.perform_get, Job.perform_bind_of_ok Job.perform_read]
  cases s.writeFile before.files path bytes <;> rfl

/-- A text that can be encoded is written by its bytes. -/
theorem perform_writeText_of_encodes {text : String} (h : s.readers.surrogates.encodes text = true)
    (path : Path) : (writeText path text).perform s before = (writeBytes path text.toUTF8).perform s before := by
  unfold writeText
  rw [Job.perform_bind_of_ok Job.perform_read, if_pos h]

/-- For a text that cannot be encoded the file is emptied. -/
theorem perform_writeText_of_not_encodes {text : String} (h : s.readers.surrogates.encodes text = false)
    (path : Path) : (writeText path text).perform s before =
      (do writeBytes path .empty; throw (.textNotEncoded path) : Job Unit).perform s before := by
  unfold writeText
  rw [Job.perform_bind_of_ok Job.perform_read, if_neg (by rw [h]; exact Bool.false_ne_true)]

/-- Making the output directory makes directories on its path. -/
theorem writes_makeOutputDir
    (hdirs : ∀ names, names <+: directory.names →
      directories (s.place ⟨directory.root, names⟩)) :
    Writes directories files before ((makeOutputDir directory).perform s before).2 := by
  rw [perform_makeOutputDir]
  exact ⟨Surroundings.frame_ensureDir hdirs, rfl⟩

/-- Writing bytes changes the file of the path. -/
theorem writes_writeBytes {path : Path} (bytes : ByteArray) (hfile : files (s.place path)) :
    Writes directories files before ((writeBytes path bytes).perform s before).2 := by
  rw [perform_writeBytes]
  split
  · next after hwrite =>
      exact ⟨FileSystem.frame_write hfile (Surroundings.write_of_writeFile hwrite), rfl⟩
  · exact .refl before

/-- Writing a text changes the file of its path, also if the text cannot be encoded. -/
theorem writes_writeText {path : Path} (text : String) (hfile : files (s.place path)) :
    Writes directories files before ((writeText path text).perform s before).2 := by
  cases hencodes : s.readers.surrogates.encodes text with
  | true =>
      rw [perform_writeText_of_encodes hencodes]
      exact writes_writeBytes _ hfile
  | false =>
      rw [perform_writeText_of_not_encodes hencodes]
      exact Job.relates_bind (R := Writes directories files) Writes.trans (fun _ => writes_writeBytes _ hfile)
        (fun _ scene => .refl scene) before

/-- Writing texts changes the files of their names. -/
theorem writes_writeTexts {entries : List (String × String)}
    (hfiles : ∀ entry ∈ entries, files (s.place (directory.join entry.1))) :
    Writes directories files before ((writeTexts directory entries).perform s before).2 := by
  induction entries generalizing before with
  | nil => exact .refl before
  | cons entry rest ih =>
      obtain ⟨name, text⟩ := entry
      unfold writeTexts
      -- the first text, then the others, and the list of paths changes nothing
      refine Job.relates_bind (R := Writes directories files) Writes.trans
        (fun _ => writes_writeText text (hfiles (name, text) List.mem_cons_self)) (fun _ => ?_) before
      refine Job.relates_bind (R := Writes directories files) Writes.trans ?_ fun _ scene => .refl scene
      exact fun _ => ih fun entry hentry => hfiles entry (List.mem_cons_of_mem _ hentry)

/-- **Writing files** makes directories on the path of the directory, and changes the files of the names. -/
theorem writes_writeFiles {entries : List (String × String)}
    (hdirs : ∀ names, names <+: directory.names →
      directories (s.place ⟨directory.root, names⟩))
    (hfiles : ∀ entry ∈ entries, files (s.place (directory.join entry.1))) :
    Writes directories files before ((writeFiles directory entries).perform s before).2 :=
  Job.relates_bind (R := Writes directories files) Writes.trans (fun _ => writes_makeOutputDir hdirs)
    (fun _ _ => writes_writeTexts hfiles) before

/-! ## What was written -/

/-- A text that was written could be encoded, and its bytes were written. -/
theorem of_perform_writeText {path : Path} {text : String}
    (h : (writeText path text).perform s before = (.ok (), after)) :
    s.readers.surrogates.encodes text = true ∧
      s.writeFile before.files path text.toUTF8 = .ok after.files := by
  cases hencodes : s.readers.surrogates.encodes text with
  | true =>
      rw [perform_writeText_of_encodes hencodes, perform_writeBytes] at h
      split at h
      · next written hwrite =>
          cases h
          exact ⟨rfl, hwrite⟩
      · cases h
  | false =>
      rw [perform_writeText_of_not_encodes hencodes] at h
      obtain ⟨_, between, -, hthrow⟩ := Job.ok_of_perform_bind h
      cases hthrow

/-- A text that was written stands at its place. -/
theorem exists_file_of_writeText {path : Path} {text : String}
    (h : (writeText path text).perform s before = (.ok (), after)) :
    ∃ bytes, after.files.node? (s.place path) = some (.file bytes) :=
  ⟨_, FileSystem.node?_place_of_write (Surroundings.write_of_writeFile (of_perform_writeText h).2)⟩

/-- Where texts were written, the first one was written, and then the others, which changed files at their own
places. -/
theorem exists_of_writeTexts_cons {name text : String} {rest : List (String × String)} {paths : List Path}
    (h : (writeTexts directory ((name, text) :: rest)).perform s before = (.ok paths, after)) :
    ∃ between others, (writeText (directory.join name) text).perform s before = (.ok (), between) ∧
      (writeTexts directory rest).perform s between = (.ok others, after) ∧
      paths = directory.join name :: others ∧
      FileSystem.Frame (fun _ => False) (fun place => ∃ entry ∈ rest, place = s.place (directory.join entry.1))
        between.files after.files := by
  unfold writeTexts at h
  obtain ⟨_, between, hfirst, h⟩ := Job.ok_of_perform_bind h
  obtain ⟨others, last, hrest, h⟩ := Job.ok_of_perform_bind h
  cases h
  have hwrites : Writes (fun _ => False) (fun place => ∃ entry ∈ rest, place = s.place (directory.join entry.1))
      between ((writeTexts directory rest).perform s between).2 :=
    writes_writeTexts fun entry hentry => ⟨entry, hentry, rfl⟩
  rw [hrest] at hwrites
  exact ⟨between, others, hfirst, hrest, rfl, hwrites.frame⟩

/-- Texts that were written stand at their places. -/
theorem exists_file_of_writeTexts {entries : List (String × String)} {paths : List Path}
    (h : (writeTexts directory entries).perform s before = (.ok paths, after)) :
    ∀ entry ∈ entries, ∃ bytes,
      after.files.node? (s.place (directory.join entry.1)) = some (.file bytes) := by
  induction entries generalizing before paths with
  | nil => nofun
  | cons first rest ih =>
      -- the other texts leave a file where the first one was written
      obtain ⟨between, others, hfirst, hrest, -, hframe⟩ := exists_of_writeTexts_cons h
      rintro entry (_ | ⟨_, hentry⟩)
      · exact hframe.exists_file (exists_file_of_writeText hfirst)
      · exact ih hrest entry hentry

/-- **Files that were written** stand at their places. -/
theorem exists_file_of_writeFiles {entries : List (String × String)} {paths : List Path}
    (h : (writeFiles directory entries).perform s before = (.ok paths, after)) :
    ∀ entry ∈ entries, ∃ bytes,
      after.files.node? (s.place (directory.join entry.1)) = some (.file bytes) := by
  obtain ⟨_, between, -, htexts⟩ := Job.ok_of_perform_bind h
  exact exists_file_of_writeTexts htexts

/-! ## Failing to write -/

/-- **A file of a directory is not written, and this is about no area**: the system cannot be asked about its
path, or its text cannot be encoded. -/
inductive Unwritten (s : Surroundings) (directory : Path) (names : List String) : Failure → Prop
  /-- The system cannot be asked about its path. -/
  | path {name : String} {fault : FileFault} (hname : name ∈ names)
      (h : s.Refuses (directory.join name) fault) :
      Unwritten s directory names (.fileNotWritten (directory.join name) (.file fault))
  /-- Its text cannot be encoded. -/
  | text {name : String} (hname : name ∈ names) :
      Unwritten s directory names (.textNotEncoded (directory.join name))

/-- A failure for a file among some is one for a file among more. -/
theorem Unwritten.mono {names others : List String} {failure : Failure}
    (h : Unwritten s directory names failure) (hnames : names ⊆ others) :
    Unwritten s directory others failure := by
  cases h with
  | path hname hpath => exact .path (hnames hname) hpath
  | text hname => exact .text (hnames hname)

/-- Making the output directory fails with a failure about the output, or leaves the files as they were. -/
theorem files_of_makeOutputDir {failure : Failure}
    (h : (makeOutputDir directory).perform s before = (.error failure, after))
    (harea : failure.area? ≠ some .output) : after.files = before.files := by
  rw [perform_makeOutputDir] at h
  cases hresult : (s.ensureDir before.files directory).2 with
  | ok _ =>
      rw [hresult] at h
      cases h
  | error fault =>
      rw [hresult] at h
      cases h
      have hfault : ¬ fault.isReported = true := fun hreported => harea (if_pos hreported)
      -- with a path that is refused no directory is made
      have hrefused := Surroundings.ensureDir_unreported_iff.mp ⟨hresult, Bool.not_eq_true _ ▸ hfault⟩
      exact congrArg Prod.fst hrefused.ensureDir_eq

/-- Writing bytes fails with a failure about the output, unless the path is refused. -/
theorem refuses_of_writeBytes {path : Path} {bytes : ByteArray} {failure : Failure}
    (h : (writeBytes path bytes).perform s before = (.error failure, after))
    (harea : failure.area? ≠ some .output) :
    ∃ fault, s.Refuses path fault ∧ failure = .fileNotWritten path (.file fault) := by
  rw [perform_writeBytes] at h
  split at h
  · cases h
  · next fault hwrite =>
      cases h
      have hfault : ¬ fault.isReported = true := fun hreported => harea (if_pos hreported)
      exact ⟨fault, Surroundings.writeFile_unreported_iff.mp ⟨hwrite, Bool.not_eq_true _ ▸ hfault⟩, rfl⟩

/-- Writing a text fails with a failure about the output, unless the path is refused or the text cannot be
encoded. -/
theorem unwritten_of_writeText {name text : String} {failure : Failure}
    (h : (writeText (directory.join name) text).perform s before = (.error failure, after))
    (harea : failure.area? ≠ some .output) : Unwritten s directory [name] failure := by
  have hbytes : ∀ bytes after, (writeBytes (directory.join name) bytes).perform s before =
      (.error failure, after) → Unwritten s directory [name] failure := by
    intro bytes after hrun
    obtain ⟨fault, hrefused, rfl⟩ := refuses_of_writeBytes hrun harea
    exact .path (List.mem_singleton_self _) hrefused
  cases hencodes : s.readers.surrogates.encodes text with
  | true =>
      rw [perform_writeText_of_encodes hencodes] at h
      exact hbytes _ _ h
  | false =>
      rw [perform_writeText_of_not_encodes hencodes] at h
      rcases Job.error_of_perform_bind h with hrun | ⟨_, between, -, hthrow⟩
      · exact hbytes _ _ hrun
      · cases hthrow
        exact .text (List.mem_singleton_self _)

/-- Writing texts fails with a failure about the output, unless a file is not written. -/
theorem unwritten_of_writeTexts {entries : List (String × String)} {failure : Failure}
    (h : (writeTexts directory entries).perform s before = (.error failure, after))
    (harea : failure.area? ≠ some .output) : Unwritten s directory (entries.map Prod.fst) failure := by
  induction entries generalizing before with
  | nil => cases h
  | cons entry rest ih =>
      obtain ⟨name, text⟩ := entry
      unfold writeTexts at h
      rw [List.map_cons]
      rcases Job.error_of_perform_bind h with hfirst | ⟨_, between, -, h⟩
      · exact (unwritten_of_writeText hfirst harea).mono (List.cons_subset_cons _ (List.nil_subset _))
      -- after the first text only writing the others can fail
      · rcases Job.error_of_perform_bind h with hrest | ⟨paths, last, -, h⟩
        · exact (ih hrest).mono (List.subset_cons_self _ _)
        · cases h

/-- **Writing files fails** with a failure about the output, before any change, or because a file is not
written. -/
theorem untouched_of_writeFiles {entries : List (String × String)} {failure : Failure}
    (h : (writeFiles directory entries).perform s before = (.error failure, after))
    (harea : failure.area? ≠ some .output) :
    after.files = before.files ∨ Unwritten s directory (entries.map Prod.fst) failure := by
  rcases Job.error_of_perform_bind h with hmade | ⟨_, between, -, htexts⟩
  · exact .inl (files_of_makeOutputDir hmade harea)
  · exact .inr (unwritten_of_writeTexts htexts harea)

/-! ## Formatting -/

/-- The command that formats files. -/
def Formatter.command (formatter : Formatter) (paths : List Path) : List String :=
  formatter.path :: formatterArguments ++ paths.map Path.text

/-- What the formatter writes is no text. -/
def Surroundings.FormatterIsGarbled (s : Surroundings) : Prop :=
  ∃ formatter, s.formatter = some formatter ∧ formatter.run = .garbled

/-- **What formatting does**: files stay as they are, the formatter is started at most once, and a failure is
about the output unless the formatter writes no text. -/
structure Formats (s : Surroundings) (paths : List Path) (before : Scene)
    (run : Except Failure α × Scene) : Prop where
  /-- Files stay as they are. -/
  files : run.2.files = before.files
  /-- The formatter is started at most once. -/
  commands : run.2.commands = before.commands ∨ ∃ formatter, s.formatter = some formatter ∧
    run.2.commands = before.commands ++ [formatter.command paths]
  /-- A failure is about the output, or that of a formatter which writes no text. -/
  failure : ∀ failure, run.1 = .error failure →
    failure.area? = some .output ∨ failure = .formatterGarbled ∧ s.FormatterIsGarbled

/-- **Having files formatted** leaves the files and starts the formatter at most once. -/
theorem formats_formatFiles (paths : List Path) :
    Formats s paths before ((formatFiles paths).perform s before) := by
  unfold formatFiles
  split
  · exact ⟨rfl, .inl rfl, fun _ h => by cases h⟩
  · rw [Job.perform_bind_of_ok Job.perform_read]
    split
    · exact ⟨rfl, .inl rfl, fun _ h => by cases h; exact .inl rfl⟩
    · next formatter hformatter =>
        let started : Scene := { before with commands := before.commands ++ [formatter.command paths] }
        have hcommands : ∃ program, s.formatter = some program ∧
            started.commands = before.commands ++ [program.command paths] := ⟨formatter, hformatter, rfl⟩
        rw [Job.perform_bind_of_ok (show (modify _ : Job PUnit).perform s before = (.ok ⟨⟩, started) from
          Job.perform_modify _)]
        -- however the formatter ends, the command has been recorded before
        split
        · rw [Job.perform_throw]
          exact ⟨rfl, .inr hcommands, fun _ h => by cases h; exact .inl rfl⟩
        · next hgarbled =>
            rw [Job.perform_throw]
            exact ⟨rfl, .inr hcommands, fun _ h => by
              cases h; exact .inr ⟨rfl, formatter, hformatter, hgarbled⟩⟩
        · extract_lets finish
          split
          · rw [Job.perform_bind_of_error (Job.perform_throw _)]
            exact ⟨rfl, .inr hcommands, fun _ h => by cases h; exact .inl rfl⟩
          · rw [show (finish ()).perform s started = (.ok (), _) from Job.perform_log]
            exact ⟨rfl, .inr hcommands, fun _ h => by cases h⟩

/-- What comes after formatting and only reports changes nothing about it. -/
theorem Formats.bind {paths : List Path} {job : Job α} {next : α → Job β}
    (h : Formats s paths before (job.perform s before))
    (hnext : ∀ a scene, ∃ b after, (next a).perform s scene = (.ok b, after) ∧ Job.SameEffects scene after) :
    Formats s paths before ((job >>= next).perform s before) := by
  rcases Job.perform_bind_cases job next s before with ⟨failure, after, hrun, hwhole⟩ | ⟨a, after, hrun, hwhole⟩
  · rw [hrun] at h
    rw [hwhole]
    exact ⟨h.files, h.commands, fun _ hfailure => by cases hfailure; exact h.failure failure rfl⟩
  · obtain ⟨b, last, hlast, hsame⟩ := hnext a after
    rw [hrun] at h
    rw [hwhole, hlast]
    exact ⟨hsame.files.trans h.files, by rw [hsame.commands]; exact h.commands, fun _ h => by cases h⟩

/-! ## The run -/

namespace Settings

/-- The place of a generated module. -/
def IsModulePlace (settings : Settings) (s : Surroundings) (place : Location) : Prop :=
  ∃ name ∈ [settings.servicesFileName, settings.typesFileName],
    place = s.place (settings.outputDir.join name)

/-- The place of the output directory or of one above it. -/
def IsOutputPlace (settings : Settings) (s : Surroundings) (place : Location) : Prop :=
  ∃ names, names <+: settings.outputDir.names ∧
    place = s.place ⟨settings.outputDir.root, names⟩

end Settings

variable {settings : Settings}

/-- **A run is contained**: it changes what it may change, and in the order that it should. -/
structure Contained (settings : Settings) (s : Surroundings) (before : Scene)
    (run : Except Failure α × Scene) : Prop where
  /-- Only the generated modules change, and directories appear only at the output directory and above. -/
  frame : FileSystem.Frame (settings.IsOutputPlace s) (settings.IsModulePlace s)
    before.files run.2.files
  /-- After a failure that is not about the output no command has been started and no file has changed, unless
  the failure is that a module was not written, or that the formatter wrote no text. -/
  untouched : ∀ failure, run.1 = .error failure → failure.area? ≠ some .output →
    run.2.commands = before.commands ∧
        (run.2.files = before.files ∨
          Unwritten s settings.outputDir [settings.servicesFileName, settings.typesFileName] failure) ∨
      failure = .formatterGarbled ∧ s.FormatterIsGarbled
  /-- A command is only that of the formatter, and it is started once both modules have been written. -/
  formatted : run.2.commands = before.commands ∨
    ∃ services types rendered paths written formatter,
      Job.SameEffects before rendered ∧
      (writeFiles settings.outputDir (moduleFiles settings services types)).perform s rendered =
        (.ok paths, written) ∧
      s.formatter = some formatter ∧ run.2.files = written.files ∧
      (∀ place, settings.IsModulePlace s place →
        ∃ bytes, written.files.node? place = some (.file bytes)) ∧
      run.2.commands = before.commands ++ [formatter.command paths]

/-- A run that changes nothing is contained. -/
theorem Contained.of_sameEffects {run : Except Failure α × Scene} (h : Job.SameEffects before run.2) :
    Contained settings s before run where
  frame := h.files ▸ .refl _
  untouched _ _ _ := .inl ⟨h.commands, .inl h.files⟩
  formatted := Or.inl h.commands

/-- A run is contained if it is after changing nothing. -/
theorem Contained.after_sameEffects {run : Except Failure α × Scene} (h : Job.SameEffects before between)
    (hrun : Contained settings s between run) : Contained settings s before run where
  frame := h.files ▸ hrun.frame
  untouched failure hfailure harea := by
    rw [← h.files, ← h.commands]
    exact hrun.untouched failure hfailure harea
  formatted := by
    rw [← h.commands]
    rcases hrun.formatted with hnone | ⟨services, types, rendered, paths, written, formatter, hsame, hrest⟩
    · exact Or.inl hnone
    · exact Or.inr ⟨services, types, rendered, paths, written, formatter, h.trans hsame, hrest⟩

/-- A quiet job in front leaves a run contained. -/
theorem contained_bind_of_quiet {job : Job α} {next : α → Job β} (hquiet : job.Quiet)
    (hnext : ∀ a between, Contained settings s between ((next a).perform s between)) :
    Contained settings s before ((job >>= next).perform s before) := by
  have hjob := hquiet s before
  rcases Job.perform_bind_cases job next s before with ⟨failure, after, hrun, hwhole⟩ | ⟨a, after, hrun, hwhole⟩
  · rw [hrun] at hjob
    rw [hwhole]
    exact .of_sameEffects hjob
  · rw [hrun] at hjob
    rw [hwhole]
    exact (hnext a after).after_sameEffects hjob

/-- The files of the modules have the names from the settings. -/
theorem name_of_mem_moduleFiles {services types : String} {entry : String × String}
    (h : entry ∈ moduleFiles settings services types) :
    entry.1 ∈ [settings.servicesFileName, settings.typesFileName] :=
  List.mem_map_of_mem (f := Prod.fst) (Entries.mem_of_mem_ofList h)

/-- Each of the names from the settings is that of a file. -/
theorem exists_mem_moduleFiles {services types name : String}
    (h : name ∈ [settings.servicesFileName, settings.typesFileName]) :
    ∃ entry ∈ moduleFiles settings services types, entry.1 = name := by
  rw [show moduleFiles settings services types = Entries.insert settings.typesFileName types
    [(settings.servicesFileName, services)] from rfl, Entries.insert_cons, Entries.insert_nil]
  rcases List.mem_cons.mp h with rfl | h
  · split
    · exact ⟨_, List.mem_cons_self, rfl⟩
    · exact ⟨_, List.mem_cons_self, rfl⟩
  -- one name for both modules is one file
  · rw [List.mem_singleton] at h
    subst h
    split
    · next hsame => exact ⟨_, List.mem_cons_self, eq_of_beq hsame⟩
    · exact ⟨_, List.mem_cons_of_mem _ List.mem_cons_self, rfl⟩

/-- Once the modules have been written, files stand at their places. -/
theorem exists_file_of_writeModules {services types : String} {paths : List Path}
    (h : (writeFiles settings.outputDir (moduleFiles settings services types)).perform s before =
      (.ok paths, after)) :
    ∀ place, settings.IsModulePlace s place →
      ∃ bytes, after.files.node? place = some (.file bytes) := by
  rintro place ⟨name, hname, rfl⟩
  obtain ⟨entry, hentry, rfl⟩ : ∃ entry ∈ moduleFiles settings services types, entry.1 = name :=
    exists_mem_moduleFiles hname
  exact exists_file_of_writeFiles h entry hentry

/-- Writing the modules makes and changes what a run may make and change. -/
theorem writes_modules (settings : Settings) (services types : String) (s : Surroundings)
    (before : Scene) :
    Writes (settings.IsOutputPlace s) (settings.IsModulePlace s) before
      ((writeFiles settings.outputDir (moduleFiles settings services types)).perform s before).2 :=
  writes_writeFiles (fun names hnames => ⟨names, hnames, rfl⟩)
    fun entry hentry => ⟨entry.1, name_of_mem_moduleFiles hentry, rfl⟩

/-- Writing the modules and then at most formatting them is contained. -/
theorem contained_bind_writeFiles {services types : String} {next : List Path → Job α}
    (hnext : ∀ paths between, Formats s paths between ((next paths).perform s between)) :
    Contained settings s before
      ((writeFiles settings.outputDir (moduleFiles settings services types) >>= next).perform s before) := by
  have hwrites := writes_modules settings services types s before
  rcases Job.perform_bind_cases (writeFiles settings.outputDir (moduleFiles settings services types)) next
    s before with ⟨failure, after, hrun, hwhole⟩ | ⟨paths, after, hrun, hwhole⟩
  · rw [hrun] at hwrites
    rw [hwhole]
    refine ⟨hwrites.frame, fun failure' hfailure harea => .inl ⟨hwrites.commands, ?_⟩,
      .inl hwrites.commands⟩
    cases hfailure
    refine (untouched_of_writeFiles hrun harea).imp_right fun hunwritten => hunwritten.mono fun name hname => ?_
    obtain ⟨entry, hentry, rfl⟩ := List.mem_map.mp hname
    exact name_of_mem_moduleFiles hentry
  · have hformats := hnext paths after
    rw [hrun] at hwrites
    rw [hwhole]
    refine ⟨?_, fun failure hfailure harea =>
      .inr ((hformats.failure failure hfailure).resolve_left harea), ?_⟩
    · rw [hformats.files]
      exact hwrites.frame
    · rcases hformats.commands with hnone | ⟨formatter, hformatter, hcommands⟩
      · exact Or.inl (hnone.trans hwrites.commands)
      · refine Or.inr ⟨services, types, before, paths, after, formatter, .refl before, hrun, hformatter,
          hformats.files, exists_file_of_writeModules hrun, hcommands.trans ?_⟩
        rw [hwrites.commands]

/-- A document without paths has no operations to derive bindings for. -/
theorem bindingsOf_of_paths_empty {selection : Selection} {document : Value}
    (h : document.get? "paths" = some (.map [])) : bindingsOf selection document = .ok ⟨[]⟩ := by
  have hnone : operationsOf selection.includePaths selection.excludePaths (pathItems []) = [] := by
    simp [operationsOf, selectPaths, pathItems]
  rw [bindingsOf, h]
  dsimp only
  rw [hnone]
  rfl

/-- Surroundings with the root as working directory, and nothing on the web. -/
def bareSurroundings : Surroundings := { workingDir := ⟨.slash, []⟩ }

/-- The place that names lead to from the root. -/
def placeOf (names : List String) : Location := (names.map (.ofText .standard)).reverse

/-- The scene with a document in a file, once messages were logged. -/
def documentScene (text : String) (log : List LogEntry) : Scene :=
  ⟨⟨[(placeOf ["d.json"], .file text.toUTF8)]⟩, [], [], log⟩

/-- A document with given paths. -/
def versioned (paths : List (Scalar × Value)) : Value :=
  .map [(.text "openapi", .scalar (.text "3")), (.text "paths", .map paths)]

/-- The text of a document without operations. -/
def emptyDocumentText : String := "\x7b\"openapi\":\"3\",\"paths\":\x7b\x7d\x7d"

/-- The document without operations is loaded. -/
theorem exists_loadDocument_empty : ∃ log,
    (loadDocument "d.json" true).perform bareSurroundings (documentScene emptyDocumentText []) =
      (.ok (versioned []), documentScene emptyDocumentText log) := ⟨_, rfl⟩

/-- There are no bindings for a document without operations. -/
theorem perform_deriveBindings_empty (settings : Settings) (scene : Scene) :
    (deriveBindings settings (versioned [])).perform bareSurroundings scene = (.ok ⟨[]⟩, scene) := by
  unfold deriveBindings
  rw [bindingsOf_of_paths_empty rfl]
  rfl

/-- The output directory is made beside the document. -/
theorem perform_makeOutputDir_document (text : String) (log : List LogEntry) :
    (makeOutputDir ⟨.relative, ["out"]⟩).perform bareSurroundings (documentScene text log) =
      (.ok (), ⟨⟨[(placeOf ["d.json"], .file text.toUTF8), (placeOf ["out"], .directory)]⟩, [], [], log⟩) := rfl

/-- Settings with the null character in the name of the types module. -/
def nullNamedSettings : Settings where
  docUrl := "d.json"
  base := ""
  templateDir := none
  outputDir := ⟨.relative, ["out"]⟩
  servicesFileName := "services.ts"
  typesFileName := "types\x00.ts"
  includePaths := []
  excludePaths := []
  blobPaths := []
  format := false

/-- Beside the document the first module is written, and the second one is refused. -/
theorem exists_perform_writeFiles_nullNamed {services types : String}
    (hservices : SurrogateBlock.standard.encodes services = true)
    (htypes : SurrogateBlock.standard.encodes types = true) (text : String) (log : List LogEntry) :
    ∃ written, (writeFiles ⟨.relative, ["out"]⟩ [("services.ts", services), ("types\x00.ts", types)]).perform
        bareSurroundings (documentScene text log) =
      (.error (.fileNotWritten ⟨.relative, ["out", "types\x00.ts"]⟩ (.file .nullCharacter)), written) ∧
      written.files.node? (placeOf ["out", "services.ts"]) = some (.file services.toUTF8) := by
  let made : Scene := ⟨⟨[(placeOf ["d.json"], .file text.toUTF8), (placeOf ["out"], .directory)]⟩, [], [], log⟩
  let written : Scene :=
    ⟨⟨made.files.nodes ++ [(placeOf ["out", "services.ts"], .file services.toUTF8)]⟩, [], [], log⟩
  have hfirst : (writeText ⟨.relative, ["out", "services.ts"]⟩ services).perform bareSurroundings made =
      (.ok (), written) := perform_writeText_of_encodes hservices _
  have hsecond : (writeTexts ⟨.relative, ["out"]⟩ [("types\x00.ts", types)]).perform bareSurroundings written =
      (.error (.fileNotWritten ⟨.relative, ["out", "types\x00.ts"]⟩ (.file .nullCharacter)), written) :=
    Job.perform_bind_of_error (perform_writeText_of_encodes htypes _)
  refine ⟨written, ?_, rfl⟩
  rw [writeFiles, Job.perform_bind_of_ok (perform_makeOutputDir_document text log), writeTexts]
  exact (Job.perform_bind_of_ok hfirst).trans (Job.perform_bind_of_error hsecond)

end ServiceBindings
