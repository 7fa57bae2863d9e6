import ServiceBindings.Proofs.Operation.Members
import ServiceBindings.Proofs.Schema.Retention
import ServiceBindings.Proofs.Workspace.Generating

/-! # What a successful run delivers

A file that was written is read back with its text, unless another text is written at its place later: a path
that can be followed can still be followed after more was written (`FileSystem.Frame.locate_eq`), and of the
texts that are written at one place **the last one stays** (`read_of_writeTexts`).

A run renders two modules (`Renders`), from the standard parts or by the engine from the templates of a
directory, and writes the one of the services first. It **delivers** both (`Delivers`) exactly if their files have
different names that lead to different places, where two equal texts may stand at one place. Otherwise the types
module takes the place of the services module (`delivers_generate`). -/

namespace ServiceBindings

namespace FileSystem

variable {before after : FileSystem} {workingDir : Location} {p : SystemPath} {q : Location}
variable {directories files : Location → Prop}

/-! ## Reading after writing -/

/-- A directory stays one. -/
theorem Frame.node?_directory (h : Frame directories files before after) {place : Location}
    (hplace : before.node? place = some .directory) : after.node? place = some .directory := by
  rcases h place with heq | ⟨-, hnot, -⟩ | ⟨-, hnone, -⟩
  · rw [heq, hplace]
  · exact absurd hplace hnot
  · rw [hplace] at hnone
    cases hnone

/-- Names that can be followed can still be followed. -/
theorem Frame.locateFrom_eq (h : Frame directories files before after) {names : List FileName}
    {place : Location} (hplace : before.locateFrom place names = .ok q) :
    after.locateFrom place names = .ok q := by
  induction names generalizing place with
  | nil => exact hplace
  | cons name rest ih =>
      rw [locateFrom] at hplace ⊢
      -- every name but the last is that of a directory, which stays one
      cases hnode : before.node? place with
      | none =>
          rw [hnode] at hplace
          cases hplace
      | some node =>
          cases node with
          | file bytes =>
              rw [hnode] at hplace
              cases hplace
          | directory =>
              rw [hnode] at hplace
              rw [h.node?_directory hnode]
              dsimp only at hplace ⊢
              by_cases hup : name = .up
              · rw [if_pos hup] at hplace ⊢
                exact ih hplace
              · rw [if_neg hup] at hplace ⊢
                split at hplace
                · cases hplace
                · next hshort =>
                    rw [if_neg hshort]
                    exact ih hplace

/-- **A path that can be followed can still be followed.** -/
theorem Frame.locate_eq (h : Frame directories files before after)
    (hplace : before.locate workingDir p = .ok q) : after.locate workingDir p = .ok q := by
  unfold locate at hplace ⊢
  split at hplace
  · cases hplace
  · next hnull =>
      rw [if_neg hnull]
      split at hplace
      · cases hplace
      · next hshort =>
          rw [if_neg hshort]
          exact h.locateFrom_eq hplace

/-- A file can be written only where its path leads to. -/
theorem locate_of_write {bytes : ByteArray} (h : before.write workingDir p bytes = .ok after) :
    before.locate workingDir p = .ok (p.place workingDir) := by
  unfold write at h
  cases hplace : before.locate workingDir p with
  | error fault =>
      rw [hplace] at h
      cases h
  | ok place => rw [eq_place_of_locate hplace]

/-- The file at the place that a path leads to is the one that is read. -/
theorem read_of_locate {fs : FileSystem} {bytes : ByteArray} (hplace : fs.locate workingDir p = .ok q)
    (hnode : fs.node? q = some (.file bytes)) : fs.read workingDir p = .ok bytes := by
  simp only [read, hplace, hnode]

/-- What is read is a file at the place of its path. -/
theorem of_read_eq_ok {fs : FileSystem} {bytes : ByteArray} (h : fs.read workingDir p = .ok bytes) :
    fs.locate workingDir p = .ok (p.place workingDir) ∧
      fs.node? (p.place workingDir) = some (.file bytes) := by
  unfold read at h
  cases hplace : fs.locate workingDir p with
  | error fault =>
      rw [hplace] at h
      cases h
  | ok place =>
      rw [← eq_place_of_locate hplace]
      simp only [hplace] at h
      split at h
      · cases h
      · cases h
      · next hnode =>
          cases h
          exact ⟨rfl, hnode⟩

/-- A file at a place that may not change is read as before. -/
theorem Frame.read_eq (h : Frame directories files before after) {bytes : ByteArray}
    (hread : before.read workingDir p = .ok bytes) (hkept : ¬ files (p.place workingDir)) :
    after.read workingDir p = .ok bytes := by
  obtain ⟨hplace, hnode⟩ := of_read_eq_ok hread
  refine read_of_locate (h.locate_eq hplace) ?_
  rcases h (p.place workingDir) with heq | ⟨hfile, -, -⟩ | ⟨-, hnone, -⟩
  · rw [heq, hnode]
  · exact absurd hfile hkept
  · rw [hnode] at hnone
    cases hnone

/-- **What was written is read.** -/
theorem read_of_write {bytes : ByteArray} (h : before.write workingDir p bytes = .ok after) :
    after.read workingDir p = .ok bytes := by
  have hframe : Frame (fun _ => False) (fun _ => True) before after := frame_write trivial h
  exact read_of_locate (hframe.locate_eq (locate_of_write h)) (node?_place_of_write h)

/-- A path that can be followed to the place of another one leads to the same file. -/
theorem read_eq_of_place_eq {fs : FileSystem} {p' : SystemPath} {bytes : ByteArray}
    (h : fs.read workingDir p = .ok bytes) (hplace : fs.locate workingDir p' = .ok (p'.place workingDir))
    (heq : p'.place workingDir = p.place workingDir) : fs.read workingDir p' = .ok bytes := by
  refine read_of_locate hplace ?_
  rw [heq]
  exact (of_read_eq_ok h).2

end FileSystem

namespace Surroundings

variable {s : Surroundings} {fs before after : FileSystem} {p p' : Path} {bytes : ByteArray}
variable {directories files : Location → Prop}

/-- The system can be asked about a path, and follows it to its place. -/
structure Follows (s : Surroundings) (fs : FileSystem) (p : Path) : Prop where
  /-- The system can be asked about the path. -/
  encodes : s.encodesPath p = true
  /-- It is followed to its place. -/
  locate : fs.locate s.workingPlace (s.systemPath p) = .ok (s.place p)

/-- What is read is a file on a path that is followed. -/
theorem follows_of_readFile (h : s.readFile fs p = .ok bytes) :
    s.Follows fs p ∧ fs.read s.workingPlace (s.systemPath p) = .ok bytes := by
  unfold readFile at h
  split at h
  · next hencodes => exact ⟨⟨hencodes, (FileSystem.of_read_eq_ok h).1⟩, h⟩
  · cases h

/-- On a path that is followed the file is read that the system reads. -/
theorem Follows.readFile_eq (h : s.Follows fs p) : s.readFile fs p = fs.read s.workingPlace (s.systemPath p) :=
  if_pos h.encodes

/-- A path that is followed is still followed when files have changed. -/
theorem Follows.mono (hframe : FileSystem.Frame directories files before after) (h : s.Follows before p) :
    s.Follows after p :=
  ⟨h.encodes, hframe.locate_eq h.locate⟩

/-- A file at a place that may not change is read as before. -/
theorem readFile_of_frame (hframe : FileSystem.Frame directories files before after)
    (hread : s.readFile before p = .ok bytes) (hkept : ¬ files (s.place p)) :
    s.readFile after p = .ok bytes := by
  obtain ⟨hfollows, hread⟩ := follows_of_readFile hread
  rw [(hfollows.mono hframe).readFile_eq]
  exact hframe.read_eq hread hkept

/-- **What was written is read.** -/
theorem readFile_of_writeFile (h : s.writeFile before p bytes = .ok after) :
    s.readFile after p = .ok bytes := by
  unfold writeFile at h
  split at h
  · next hencodes => rw [readFile, if_pos hencodes, FileSystem.read_of_write h]
  · cases h

/-- A path that is followed to the place of another one leads to the same file. -/
theorem Follows.readFile_eq_of_place_eq (h : s.Follows fs p') (hread : s.readFile fs p = .ok bytes)
    (heq : s.place p' = s.place p) : s.readFile fs p' = .ok bytes := by
  rw [h.readFile_eq]
  exact FileSystem.read_eq_of_place_eq (follows_of_readFile hread).2 h.locate heq

end Surroundings

variable {s : Surroundings} {before after : Scene} {directory : Path}

/-! ## Written texts -/

/-- A text that was written is read. -/
theorem read_of_writeText {path : Path} {text : String}
    (h : (writeText path text).perform s before = (.ok (), after)) :
    s.readFile after.files path = .ok text.toUTF8 :=
  Surroundings.readFile_of_writeFile (of_perform_writeText h).2

/-- The paths of written texts are those of their names, in order. -/
theorem paths_of_writeTexts {entries : List (String × String)} {paths : List Path}
    (h : (writeTexts directory entries).perform s before = (.ok paths, after)) :
    paths = entries.map fun entry => directory.join entry.1 := by
  induction entries generalizing before paths with
  | nil =>
      cases h
      rfl
  | cons first rest ih =>
      obtain ⟨between, others, -, hrest, rfl, -⟩ := exists_of_writeTexts_cons h
      rw [List.map_cons, ih hrest]

/-- The path of a text that was written is followed from then on. -/
theorem follows_of_writeTexts {entries : List (String × String)} {paths : List Path}
    (h : (writeTexts directory entries).perform s before = (.ok paths, after)) :
    ∀ entry ∈ entries, s.Follows after.files (directory.join entry.1) := by
  induction entries generalizing before paths with
  | nil => nofun
  | cons first rest ih =>
      obtain ⟨between, others, hfirst, hrest, -, hframe⟩ := exists_of_writeTexts_cons h
      intro entry hentry
      rcases List.mem_cons.mp hentry with rfl | hentry
      · exact (Surroundings.follows_of_readFile (read_of_writeText hfirst)).1.mono hframe
      · exact ih hrest entry hentry

/-- **The last text that is written at a place stays.** -/
theorem read_of_writeTexts (front rest : List (String × String)) {name text : String} {paths : List Path}
    (h : (writeTexts directory (front ++ (name, text) :: rest)).perform s before = (.ok paths, after))
    (hlast : ∀ entry ∈ rest, s.place (directory.join entry.1) ≠ s.place (directory.join name)) :
    s.readFile after.files (directory.join name) = .ok text.toUTF8 := by
  induction front generalizing before paths with
  | nil =>
      obtain ⟨between, others, hfirst, -, -, hframe⟩ := exists_of_writeTexts_cons h
      refine Surroundings.readFile_of_frame hframe (read_of_writeText hfirst) ?_
      -- what is written after the text goes to other places
      rintro ⟨entry, hentry, hplace⟩
      exact hlast entry hentry hplace.symm
  | cons first front ih =>
      obtain ⟨between, others, -, hrest, -, -⟩ := exists_of_writeTexts_cons h
      exact ih hrest

/-! ## The run -/

/-- **What a run renders**: the two modules, from the bindings of the document at its location. Their texts are
those of the standard parts, or what the engine makes of the templates of a directory (`RendersModules`). -/
structure Renders (settings : Settings) (followRedirections : Bool) (s : Surroundings) (before : Scene)
    (bindings : Bindings) (services types : String) : Prop where
  /-- The bindings are those of the document at its location. -/
  document : ∃ document loaded,
    (loadDocument settings.docUrl followRedirections).perform s before = (.ok document, loaded) ∧
      bindingsOf settings.selection document = .ok bindings
  /-- The modules are rendered from them. -/
  modules : RendersModules s before.files settings bindings services types

/-- **What a run should deliver**: each module in its file, and the paths of both files, that of the services
module first. -/
structure Delivers (settings : Settings) (s : Surroundings) (services types : String) (g : Generation)
    (after : Scene) : Prop where
  /-- The file of the services module holds that module. -/
  services : s.readFile after.files (settings.outputDir.join settings.servicesFileName) =
    .ok services.toUTF8
  /-- The file of the types module holds that module. -/
  types : s.readFile after.files (settings.outputDir.join settings.typesFileName) =
    .ok types.toUTF8
  /-- Both files are listed. -/
  written : g.written =
    [settings.outputDir.join settings.servicesFileName, settings.outputDir.join settings.typesFileName]

variable {settings : Settings} {followRedirections : Bool} {g : Generation}

/-- What a run does after writing leaves the files, and puts the result together. -/
theorem of_perform_concludeRun {bindings : Bindings} {paths : List Path}
    (h : (concludeRun settings bindings paths).perform s before = (.ok g, after)) :
    g = ⟨settings.outputDir, paths, bindings⟩ ∧ after.files = before.files := by
  unfold concludeRun at h
  -- whether the files are formatted or not, the last message is logged
  extract_lets finish at h
  split at h
  · obtain ⟨u, formatted, hformat, h⟩ := Job.ok_of_perform_bind h
    have hformats : Formats s paths before ((formatFiles paths).perform s before) := formats_formatFiles paths
    have hfiles := hformats.files
    rw [hformat] at hfiles
    cases h
    exact ⟨rfl, hfiles⟩
  · cases h
    exact ⟨rfl, rfl⟩

/-- A run that succeeds renders both modules, writes them, and leaves the files as they are from then on. -/
theorem exists_written_of_generate
    (h : (generate settings followRedirections).perform s before = (.ok g, after)) :
    ∃ services types rendered written,
      Renders settings followRedirections s before g.bindings services types ∧
      (writeFiles settings.outputDir (moduleFiles settings services types)).perform s rendered =
        (.ok g.written, written) ∧
      after.files = written.files := by
  rw [generate_eq] at h
  obtain ⟨document, loaded, hload, h⟩ := Job.ok_of_perform_bind h
  obtain ⟨bindings, derived, hderive, h⟩ := Job.ok_of_perform_bind h
  obtain ⟨⟨services, types⟩, rendered, hrender, h⟩ := Job.ok_of_perform_bind h
  obtain ⟨paths, written, hwrite, hconclude⟩ := Job.ok_of_perform_bind h
  obtain ⟨hg, hfiles⟩ := of_perform_concludeRun hconclude
  subst hg
  -- no file has changed before rendering
  have hsame : derived.files = before.files := by
    have hquiet := quiet_loadDocument settings.docUrl followRedirections s before
    have hquiet' := quiet_deriveBindings settings document s loaded
    rw [hload] at hquiet
    rw [hderive] at hquiet'
    exact hquiet'.files.trans hquiet.files
  obtain ⟨-, hbindings⟩ := exists_perform_deriveBindings_iff.mp ⟨derived, hderive⟩
  obtain ⟨hmodules, -⟩ := perform_renderModules_eq_ok_iff.mp hrender
  rw [hsame] at hmodules
  exact ⟨services, types, rendered, written, ⟨⟨document, loaded, hload, hbindings⟩, hmodules⟩, hwrite, hfiles⟩

/-- Two names lead to one place in the output directory. -/
def Settings.SharePlace (settings : Settings) (s : Surroundings) : Prop :=
  s.place (settings.outputDir.join settings.servicesFileName) =
    s.place (settings.outputDir.join settings.typesFileName)

instance (s : Surroundings) : Decidable (settings.SharePlace s) := inferInstanceAs (Decidable (_ = _))

/-- The files of two modules with different names. -/
theorem moduleFiles_of_ne (h : settings.servicesFileName ≠ settings.typesFileName)
    (services types : String) : moduleFiles settings services types =
      [(settings.servicesFileName, services), (settings.typesFileName, types)] := by
  refine Entries.ofList_of_nodup ?_
  simpa using h

/-- One name for both modules is one file, with the text of the types module. -/
theorem moduleFiles_of_eq (h : settings.servicesFileName = settings.typesFileName)
    (services types : String) : moduleFiles settings services types =
      [(settings.servicesFileName, types)] := by
  rw [moduleFiles, ← h]
  show Entries.insert _ _ [_] = _
  rw [Entries.insert_cons, if_pos BEq.rfl]

/-- **Writing the modules**: the types module stands in its file, and the services module in its own unless
the two files share a place. -/
theorem read_of_writeModules {services types : String} {paths : List Path}
    (h : (writeFiles settings.outputDir (moduleFiles settings services types)).perform s before =
      (.ok paths, after)) :
    s.readFile after.files (settings.outputDir.join settings.typesFileName) = .ok types.toUTF8 ∧
      s.readFile after.files (settings.outputDir.join settings.servicesFileName) =
        .ok (if settings.SharePlace s then types else services).toUTF8 ∧
      paths = (moduleFiles settings services types).map fun entry => settings.outputDir.join entry.1 := by
  obtain ⟨_, made, -, h⟩ := Job.ok_of_perform_bind h
  refine and_assoc.mp ⟨?_, paths_of_writeTexts h⟩
  by_cases hnames : settings.servicesFileName = settings.typesFileName
  · rw [moduleFiles_of_eq hnames] at h
    have htypes := read_of_writeTexts [] [] h (by simp)
    have hshare : settings.SharePlace s := by rw [Settings.SharePlace, hnames]
    rw [if_pos hshare, ← hnames]
    exact ⟨htypes, htypes⟩
  · rw [moduleFiles_of_ne hnames] at h
    have htypes := read_of_writeTexts [(settings.servicesFileName, services)] [] h
      (by simp)
    refine ⟨htypes, ?_⟩
    by_cases hshare : settings.SharePlace s
    -- the types module was written last, at the same place
    · rw [if_pos hshare]
      exact (follows_of_writeTexts h _ List.mem_cons_self).readFile_eq_of_place_eq htypes hshare
    · rw [if_neg hshare]
      refine read_of_writeTexts [] [(settings.typesFileName, types)] h ?_
      intro entry hentry
      rw [List.mem_singleton.mp hentry]
      exact fun heq => hshare heq.symm

/-- **What a successful run leaves.** -/
theorem delivers_generate
    (h : (generate settings followRedirections).perform s before = (.ok g, after)) :
    ∃ services types,
      Renders settings followRedirections s before g.bindings services types ∧
      s.readFile after.files (settings.outputDir.join settings.typesFileName) = .ok types.toUTF8 ∧
      s.readFile after.files (settings.outputDir.join settings.servicesFileName) =
        .ok (if settings.SharePlace s then types else services).toUTF8 ∧
      g.written = (moduleFiles settings services types).map (fun entry => settings.outputDir.join entry.1) ∧
      (Delivers settings s services types g after ↔
        settings.servicesFileName ≠ settings.typesFileName ∧
          (settings.SharePlace s → services = types)) := by
  obtain ⟨services, types, rendered, written, hrenders, hwrite, hfiles⟩ := exists_written_of_generate h
  obtain ⟨htypes, hservices, hpaths⟩ := read_of_writeModules hwrite
  rw [← hfiles] at htypes hservices
  refine ⟨services, types, hrenders, htypes, hservices, hpaths, ?_⟩
  constructor
  · intro hdelivers
    refine ⟨fun hnames => ?_, fun hshare => ?_⟩
    -- one name for both modules is listed once
    · have hlength := congrArg List.length (hpaths.symm.trans hdelivers.written)
      rw [moduleFiles_of_eq hnames] at hlength
      simp at hlength
    · have hread := hservices.symm.trans hdelivers.services
      rw [if_pos hshare] at hread
      exact (String.toByteArray_inj.mp (Except.ok.inj hread)).symm
  · rintro ⟨hnames, hequal⟩
    refine ⟨?_, htypes, ?_⟩
    · rw [hservices]
      by_cases hshare : settings.SharePlace s
      · rw [if_pos hshare, hequal hshare]
      · rw [if_neg hshare]
    · rw [hpaths, moduleFiles_of_ne hnames]
      rfl

/-! ## Two documents -/

/-- A run without formatting goes through if its stages do. -/
theorem exists_perform_generate {document : Value} {bindings : Bindings} {loaded written : Scene}
    {services types : String} {paths : List Path} (hformat : settings.format = false)
    (hload : (loadDocument settings.docUrl followRedirections).perform s before = (.ok document, loaded))
    (hderive : (deriveBindings settings document).perform s loaded = (.ok bindings, loaded))
    (hrender : RendersModules s loaded.files settings bindings services types)
    (hwrite : (writeFiles settings.outputDir (moduleFiles settings services types)).perform s loaded =
      (.ok paths, written)) :
    ∃ g after, (generate settings followRedirections).perform s before = (.ok g, after) ∧
      g.written = paths := by
  rw [generate_eq, Job.perform_bind_of_ok hload, Job.perform_bind_of_ok hderive,
    Job.perform_bind_of_ok (perform_renderModules_eq_ok_iff.mpr ⟨hrender, rfl⟩),
    Job.perform_bind_of_ok hwrite, concludeRun, hformat]
  exact ⟨_, _, rfl, rfl⟩

/-- A text that can be encoded is written in front of others. -/
theorem perform_writeTexts_cons {name text : String} {rest : List (String × String)} {files : FileSystem}
    {path : Path} {paths : List Path} (hpath : directory.join name = path)
    (hencodes : s.readers.surrogates.encodes text = true)
    (hwrite : s.writeFile before.files path text.toUTF8 = .ok files)
    (hrest : (writeTexts directory rest).perform s { before with files } = (.ok paths, after)) :
    (writeTexts directory ((name, text) :: rest)).perform s before = (.ok (path :: paths), after) := by
  have hfirst : (writeText path text).perform s before = (.ok (), { before with files }) := by
    rw [perform_writeText_of_encodes hencodes, perform_writeBytes, hwrite]
  rw [writeTexts, hpath, Job.perform_bind_of_ok hfirst, Job.perform_bind_of_ok hrest]
  rfl

/-- Settings for a document in a file, with names for the two modules. -/
def namedSettings (services types : String) : Settings :=
  { nullNamedSettings with servicesFileName := services, typesFileName := types }

/-- Beside a document both modules are written under two names. -/
theorem exists_perform_writeModules_two (text : String) (log : List LogEntry) {services types : String}
    (hservices : SurrogateBlock.standard.encodes services = true)
    (htypes : SurrogateBlock.standard.encodes types = true) : ∃ written,
    (writeFiles ⟨.relative, ["out"]⟩
        (moduleFiles (namedSettings "services.ts" "types.ts") services types)).perform
      bareSurroundings (documentScene text log) =
        (.ok [⟨.relative, ["out", "services.ts"]⟩, ⟨.relative, ["out", "types.ts"]⟩], written) := by
  have hpath : Path.join ⟨.relative, ["out"]⟩ "services.ts" = ⟨.relative, ["out", "services.ts"]⟩ := by decide
  have hpath' : Path.join ⟨.relative, ["out"]⟩ "types.ts" = ⟨.relative, ["out", "types.ts"]⟩ := by decide
  rw [moduleFiles_of_ne (by decide), writeFiles,
    Job.perform_bind_of_ok (perform_makeOutputDir_document text log)]
  exact ⟨_, perform_writeTexts_cons hpath hservices rfl (perform_writeTexts_cons hpath' htypes rfl rfl)⟩

/-- Beside a document one module is written under one name. -/
theorem exists_perform_writeModules_one (text : String) (log : List LogEntry) (services : String)
    {types : String} (htypes : SurrogateBlock.standard.encodes types = true) : ∃ written,
    (writeFiles ⟨.relative, ["out"]⟩ (moduleFiles (namedSettings "api.ts" "api.ts") services types)).perform
      bareSurroundings (documentScene text log) = (.ok [⟨.relative, ["out", "api.ts"]⟩], written) := by
  have hpath : Path.join ⟨.relative, ["out"]⟩ "api.ts" = ⟨.relative, ["out", "api.ts"]⟩ := by decide
  rw [moduleFiles_of_eq rfl, writeFiles, Job.perform_bind_of_ok (perform_makeOutputDir_document text log)]
  exact ⟨_, perform_writeTexts_cons hpath htypes rfl rfl⟩

/-- The text of a document with one operation. -/
def widgetsText : String :=
  "\x7b\"openapi\":\"3\",\"paths\":\x7b\"/widgets\":\x7b\"get\":" ++
    "\x7b\"parameters\":[\x7b\"in\":\"query\",\"name\":\"page\"\x7d]\x7d\x7d\x7d\x7d"

/-- The paths of the document with one operation. -/
def widgetPaths : List (Scalar × Value) :=
  [(.text "/widgets", .map [(.text "get", .map (listWidgets "query").entries)])]

/-- The document with one operation is loaded from its file. -/
theorem exists_loadDocument_widgets : ∃ log, (loadDocument "d.json" true).perform bareSurroundings
    (documentScene widgetsText []) = (.ok (versioned widgetPaths), documentScene widgetsText log) := ⟨_, rfl⟩

/-- The bindings of the document with one operation, if it can be built. -/
theorem bindingsOf_versioned_widgets {pair : ServiceFunction × TypeScope}
    (h : OperationContext.build ⟨versioned widgetPaths, "", []⟩ (listWidgets "query") = .ok pair) :
    bindingsOf {} (versioned widgetPaths) = .ok ⟨[pair]⟩ := by
  have hpaths : (versioned widgetPaths).get? "paths" = some (.map widgetPaths) := rfl
  have hoperations : Selection.operations {} (versioned widgetPaths) = [listWidgets "query"] := by
    rw [Selection.operations, hpaths]
    simp [widgetPaths, listWidgets, operationsOf, selectPaths, pathItems, operationsAt, httpMethods]
  rw [bindingsOf_eq_ok_iff, hoperations]
  refine ⟨⟨_, rfl⟩, ?_⟩
  show [listWidgets "query"].mapM (OperationContext.build ⟨versioned widgetPaths, "", []⟩) = .ok [pair]
  rw [List.mapM_cons, h]
  rfl

/-- The service function of the document with one operation. -/
def getWidgets : ServiceFunction where
  scope := "NSGetWidgets"
  summary := ""
  path := "/widgets"
  tags := ""
  name := "getWidgets"
  hasId := false
  hasParams := true
  paramsType := "NSGetWidgets.IParams"
  hasBody := false
  bodyType := "undefined"
  hasResponse := false
  responseType := "void"
  method := "get"
  requestPath := "/widgets"
  isBlob := false

/-- The namespace of types of the document with one operation. -/
def widgetTypes : TypeScope where
  name := "NSGetWidgets"
  summary := ""
  path := "/widgets"
  tags := ""
  method := "get"
  paramsText := "export interface IParams \x7b\n  page?: string;\n\x7d\n"
  bodyText := ""
  responseText := ""

/-- The operation of the document is built. -/
theorem build_widgets : OperationContext.build ⟨versioned widgetPaths, "", []⟩ (listWidgets "query") =
    .ok (getWidgets, widgetTypes) := by
  decide +kernel

/-- The services module of the document with one operation can be encoded. -/
theorem encodes_services_widgets :
    SurrogateBlock.standard.encodes (servicesModule .standard "types.ts" [getWidgets]) = true := by
  -- part by part, since a long text takes long to be gone through
  unfold servicesModule servicesHead ServiceFunction.text
  simp only [Templates.standard, TemplatePart.text_standard, SurrogateBlock.encodes_append,
    SurrogateBlock.encodes_join, List.map_cons, List.map_nil, List.all_cons, List.all_nil]
  decide +kernel

/-- The types module of the document with one operation can be encoded. -/
theorem encodes_types_widgets :
    SurrogateBlock.standard.encodes (typesModule .standard [widgetTypes]) = true := by
  unfold typesModule TypeScope.moduleText
  simp only [Templates.standard, TemplatePart.text_standard, SurrogateBlock.encodes_append,
    SurrogateBlock.encodes_join, List.map_cons, List.map_nil, List.all_cons, List.all_nil]
  decide +kernel

/-- With two names that lead to two places both modules are delivered: those of a document with one operation. -/
theorem delivers_generate_twoNames : ∃ g after,
    (generate (namedSettings "services.ts" "types.ts") true).perform bareSurroundings
      (documentScene widgetsText []) = (.ok g, after) ∧
    ∃ services types, Renders (namedSettings "services.ts" "types.ts") true bareSurroundings
        (documentScene widgetsText []) g.bindings services types ∧
      Delivers (namedSettings "services.ts" "types.ts") bareSurroundings services types g after := by
  have hnames : (namedSettings "services.ts" "types.ts").servicesFileName ≠
      (namedSettings "services.ts" "types.ts").typesFileName := by decide
  have hplaces : ¬ (namedSettings "services.ts" "types.ts").SharePlace bareSurroundings := by decide
  obtain ⟨log, hload⟩ : ∃ log, (loadDocument (namedSettings "services.ts" "types.ts").docUrl true).perform
      bareSurroundings (documentScene widgetsText []) =
        (.ok (versioned widgetPaths), documentScene widgetsText log) := exists_loadDocument_widgets
  have hderive : (deriveBindings (namedSettings "services.ts" "types.ts") (versioned widgetPaths)).perform
      bareSurroundings (documentScene widgetsText log) =
        (.ok ⟨[(getWidgets, widgetTypes)]⟩, (documentScene widgetsText log)) := by
    unfold deriveBindings
    rw [show (namedSettings "services.ts" "types.ts").selection = {} from rfl,
      bindingsOf_versioned_widgets build_widgets]
    rfl
  have hrender : RendersModules bareSurroundings (documentScene widgetsText log).files
      (namedSettings "services.ts" "types.ts") ⟨[(getWidgets, widgetTypes)]⟩ (servicesModule .standard "types.ts" [getWidgets])
      (typesModule .standard [widgetTypes]) := .standard rfl
  obtain ⟨written, hwrite⟩ := exists_perform_writeModules_two widgetsText log encodes_services_widgets
    encodes_types_widgets
  obtain ⟨g, after, hrun, -⟩ := exists_perform_generate rfl hload hderive hrender hwrite
  obtain ⟨services, types, hrenders, -, -, -, hdelivers⟩ := delivers_generate hrun
  exact ⟨g, after, hrun, services, types, hrenders,
    hdelivers.mpr ⟨hnames, fun hshare => absurd hshare hplaces⟩⟩

/-- With one name for both modules a run succeeds, and delivers no services module. -/
theorem not_delivers_generate_oneName : ∃ g after,
    (generate (namedSettings "api.ts" "api.ts") true).perform bareSurroundings
      (documentScene emptyDocumentText []) = (.ok g, after) ∧
    ∀ services types,
      ¬ Delivers (namedSettings "api.ts" "api.ts") bareSurroundings services types g after := by
  obtain ⟨log, hload⟩ : ∃ log, (loadDocument (namedSettings "api.ts" "api.ts").docUrl true).perform
      bareSurroundings (documentScene emptyDocumentText []) =
        (.ok (versioned []), documentScene emptyDocumentText log) := exists_loadDocument_empty
  have hrender : RendersModules bareSurroundings (documentScene emptyDocumentText log).files
      (namedSettings "api.ts" "api.ts") ⟨[]⟩ (servicesModule .standard "api.ts" []) (typesModule .standard []) := .standard rfl
  have hencodes : SurrogateBlock.standard.encodes (typesModule .standard []) = true := by decide +kernel
  obtain ⟨written, hwrite⟩ := exists_perform_writeModules_one emptyDocumentText log
    (servicesModule .standard "api.ts" []) hencodes
  obtain ⟨g, after, hrun, hwritten⟩ := exists_perform_generate rfl hload
    (perform_deriveBindings_empty _ _) hrender hwrite
  refine ⟨g, after, hrun, fun services types hdelivers => ?_⟩
  -- one path is listed in place of two
  have hlength := congrArg List.length (hwritten.symm.trans hdelivers.written)
  simp at hlength

end ServiceBindings
