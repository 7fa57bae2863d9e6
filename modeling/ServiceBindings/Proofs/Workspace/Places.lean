import ServiceBindings.Proofs.Schema.Written
import ServiceBindings.Workspace.FileSystem

/-! # What the operations of a file system change

Where a path leads to is decided by its names alone (`SystemPath.place`, `FileSystem.eq_place_of_locate`): what
stands on the way decides only whether it can be followed.

`FileSystem.Frame` says what may differ between two file systems: **files of some places**, and
**directories that were made at some places where nothing stood**. Writing a file changes the file at the
place of its path (`FileSystem.frame_write`), and making a directory and the ones above it makes directories
at the places of the beginnings of its path (`FileSystem.frame_ensureDir`), whether it succeeds or not.

A path with the null character leads nowhere: with it nothing is changed, and it is the only fault that does not
come from the system. -/

namespace ServiceBindings

/-- The place that a name leads to: two dots lead one directory up. -/
def Location.enter (place : Location) (name : FileName) : Location :=
  if name = .up then place.tail else name :: place

/-- A name of a path holds the null character. -/
def Path.HasNull (p : Path) : Prop := ∃ name ∈ p.names, '\x00' ∈ name.toList

namespace SystemPath

/-- The place that a path leads to from a working directory, whatever stands on the way. -/
def place (workingDir : Location) (p : SystemPath) : Location :=
  p.names.foldl Location.enter (if p.root = .relative then workingDir else [])

/-- A name of a path holds the null character. -/
def HasNull (p : SystemPath) : Prop := p.names.any FileName.hasNull = true

end SystemPath

/-! ## The null character -/

/-- A byte is the null byte exactly if its number is zero. -/
theorem zero_eq_ofNat_iff {n : Nat} (h : n < 256) : (0 : UInt8) = .ofNat n ↔ n = 0 := by
  rw [← UInt8.toNat_inj, UInt8.toNat_ofNat_of_lt' h, UInt8.toNat_zero, eq_comm]

/-- The null byte is among the bytes of the null character alone. -/
theorem zero_mem_utf8EncodeChar_iff {c : Char} : 0 ∈ String.utf8EncodeChar c ↔ c = '\x00' := by
  have hnull : c = '\x00' ↔ c.val.toNat = 0 := by
    rw [Char.ext_iff, ← UInt32.toNat_inj]
    rfl
  have hlong : ∀ bytes : List Nat, (∀ n ∈ bytes, 128 ≤ n ∧ n < 256) → 0 ∉ bytes.map UInt8.ofNat := by
    intro bytes hbytes hzero
    obtain ⟨n, hn, heq⟩ := List.mem_map.mp hzero
    have hrange := hbytes n hn
    have hn := (zero_eq_ofNat_iff hrange.2).mp heq.symm
    omega
  unfold String.utf8EncodeChar
  extract_lets v
  rw [hnull]
  -- every byte of a longer encoding has its highest bit set
  split
  · rw [List.mem_singleton, zero_eq_ofNat_iff (by omega)]
  · refine iff_of_false ?_ (by omega)
    split
    · exact hlong [_, _] (by simp; omega)
    · split
      · exact hlong [_, _, _] (by simp; omega)
      · exact hlong [_, _, _, _] (by simp; omega)

namespace SurrogateBlock

variable {b : SurrogateBlock} {name : String} {c : Char} {unit : Nat}

/-- The null character stands for no surrogate of a single byte. -/
theorem surrogate?_null_ne (h : 0xDC80 ≤ unit) : b.surrogate? '\x00' ≠ some unit := by
  intro hsurrogate
  unfold surrogate? at hsurrogate
  split at hsurrogate
  -- the first character of a block stands for the first surrogate
  · have hunit : 0xD800 + (0 - b.start) = unit := Option.some.inj hsurrogate
    omega
  · cases hsurrogate

/-- The bytes of a name that can be encoded hold the null byte exactly if it holds the null character. -/
theorem zero_mem_nameBytes_iff (h : b.encodesName name = true) :
    0 ∈ b.nameBytes name ↔ '\x00' ∈ name.toList := by
  have hchar : ∀ c ∈ name.toList, 0 ∈ b.charBytes c ↔ c = '\x00' := by
    intro c hc
    have hallowed := List.all_eq_true.mp h c hc
    unfold charBytes
    cases hsurrogate : b.surrogate? c with
    | none => exact zero_mem_utf8EncodeChar_iff
    | some unit =>
        rw [hsurrogate] at hallowed
        have hunit : 0xDC80 ≤ unit ∧ unit < 0xDD00 := of_decide_eq_true hallowed
        refine iff_of_false ?_ fun hnull => surrogate?_null_ne hunit.1 (hnull ▸ hsurrogate)
        rw [List.mem_singleton, zero_eq_ofNat_iff (by omega)]
        omega
  rw [nameBytes, List.mem_flatMap]
  constructor
  · rintro ⟨c, hc, hzero⟩
    exact (hchar c hc).mp hzero ▸ hc
  · intro hnull
    exact ⟨_, hnull, (hchar _ hnull).mpr rfl⟩

/-- The system is asked about the null character exactly if a path holds it. -/
theorem hasNull_ofPath_iff {p : Path} (h : p.names.all b.encodesName = true) :
    (SystemPath.ofPath b p).HasNull ↔ p.HasNull := by
  rw [SystemPath.HasNull, SystemPath.ofPath, List.any_map, List.any_eq_true]
  refine exists_congr fun name => and_congr_right fun hname => ?_
  exact List.contains_iff_mem.trans (zero_mem_nameBytes_iff (List.all_eq_true.mp h name hname))

end SurrogateBlock

namespace FileSystem

variable {fs before between after : FileSystem} {workingDir : Location} {p : SystemPath}

/-! ## Where a path leads to -/

/-- Names lead to a place that does not depend on what stands on the way. -/
theorem eq_foldl_of_locateFrom {names : List FileName} {place q : Location}
    (h : fs.locateFrom place names = .ok q) : q = names.foldl Location.enter place := by
  induction names generalizing place with
  | nil =>
      cases h
      rfl
  | cons name rest ih =>
      rw [locateFrom] at h
      rw [List.foldl_cons, Location.enter]
      split at h
      · cases h
      · cases h
      · by_cases hup : name = .up
        · rw [if_pos hup] at h
          rw [if_pos hup]
          exact ih h
        · rw [if_neg hup] at h
          rw [if_neg hup]
          split at h
          · cases h
          · exact ih h

/-- A path leads to its place, if it leads anywhere. -/
theorem eq_place_of_locate {q : Location} (h : fs.locate workingDir p = .ok q) :
    q = p.place workingDir := by
  unfold locate at h
  split at h
  · cases h
  · split at h
    · cases h
    · exact eq_foldl_of_locateFrom h

/-! ## Faults that do not come from the system -/

/-- Following names has the faults of the system alone. -/
theorem isReported_of_locateFrom {names : List FileName} {place : Location} {fault : FileFault}
    (h : fs.locateFrom place names = .error fault) : fault.isReported = true := by
  induction names generalizing place with
  | nil => cases h
  | cons name rest ih =>
      rw [locateFrom] at h
      split at h
      · cases h
        rfl
      · cases h
        rfl
      · split at h
        · exact ih h
        · split at h
          · cases h
            rfl
          · exact ih h

/-- Of the faults that do not come from the system, a path has that of the null character, which it holds. -/
theorem locate_unreported_iff {fault : FileFault} :
    fs.locate workingDir p = .error fault ∧ fault.isReported = false ↔
      p.HasNull ∧ fault = .nullCharacter := by
  unfold locate SystemPath.HasNull
  split
  · next hnull =>
      refine ⟨fun h => ⟨hnull, (Except.error.inj h.1).symm⟩, ?_⟩
      rintro ⟨-, rfl⟩
      exact ⟨rfl, rfl⟩
  · next hnull =>
      refine iff_of_false ?_ fun h => hnull h.1
      rintro ⟨h, hfault⟩
      split at h
      · cases h
        cases hfault
      · rw [isReported_of_locateFrom h] at hfault
        cases hfault

/-- A path with the null character has its fault. -/
theorem locate_of_hasNull (h : p.HasNull) : fs.locate workingDir p = .error .nullCharacter :=
  (locate_unreported_iff.mpr ⟨h, rfl⟩).1

/-- Reading has a fault that does not come from the system exactly if the path holds the null character. -/
theorem read_unreported_iff {fault : FileFault} :
    fs.read workingDir p = .error fault ∧ fault.isReported = false ↔ p.HasNull ∧ fault = .nullCharacter := by
  rw [← @locate_unreported_iff fs workingDir p]
  refine and_congr_left fun hfault => ?_
  unfold read
  cases fs.locate workingDir p with
  | error fault => simp
  | ok place => rcases hnode : fs.node? place with _ | _ | _ <;> cases fault <;> simp_all [FileFault.isReported]

/-- Writing has a fault that does not come from the system exactly if the path holds the null character. -/
theorem write_unreported_iff {bytes : ByteArray} {fault : FileFault} :
    fs.write workingDir p bytes = .error fault ∧ fault.isReported = false ↔
      p.HasNull ∧ fault = .nullCharacter := by
  rw [← @locate_unreported_iff fs workingDir p]
  refine and_congr_left fun hfault => ?_
  unfold write
  cases fs.locate workingDir p with
  | error fault => simp
  | ok place => rcases hnode : fs.node? place with _ | _ | _ <;> cases fault <;> simp_all [FileFault.isReported]

/-- Making a directory has a fault that does not come from the system exactly if the path holds the null
character. -/
theorem makeDir_unreported_iff {fault : FileFault} :
    fs.makeDir workingDir p = .error fault ∧ fault.isReported = false ↔
      p.HasNull ∧ fault = .nullCharacter := by
  rw [← @locate_unreported_iff fs workingDir p]
  refine and_congr_left fun hfault => ?_
  unfold makeDir
  cases fs.locate workingDir p with
  | error fault => simp
  | ok place => rcases hnode : fs.node? place with _ | _ | _ <;> cases fault <;> simp_all [FileFault.isReported]

/-! ## Frames -/

/-- **What may differ** between two file systems: files of some places, and directories that stand at some
places where nothing stood. -/
def Frame (directories files : Location → Prop) (before after : FileSystem) : Prop :=
  ∀ place, after.node? place = before.node? place ∨
    (files place ∧ before.node? place ≠ some .directory ∧
      ∃ bytes, after.node? place = some (.file bytes)) ∨
    (directories place ∧ before.node? place = none ∧ after.node? place = some .directory)

variable {directories files : Location → Prop}

/-- Nothing differs from itself. -/
theorem Frame.refl (fs : FileSystem) : Frame directories files fs fs := fun _ => Or.inl rfl

/-- What may differ in two steps may differ in one. -/
theorem Frame.trans (h : Frame directories files before between)
    (h' : Frame directories files between after) : Frame directories files before after := by
  intro place
  rcases h place with heq | ⟨hfile, hbefore, bytes, hbetween⟩ | ⟨hdir, hbefore, hbetween⟩
  · have hnext := h' place
    rw [heq] at hnext
    exact hnext
  -- a file stays a file, and a directory that was made stays
  · rcases h' place with heq | ⟨-, -, hafter⟩ | ⟨-, hnone, -⟩
    · exact Or.inr (Or.inl ⟨hfile, hbefore, bytes, heq.trans hbetween⟩)
    · exact Or.inr (Or.inl ⟨hfile, hbefore, hafter⟩)
    · rw [hbetween] at hnone
      cases hnone
  · rcases h' place with heq | ⟨-, hnot, -⟩ | ⟨-, hnone, -⟩
    · exact Or.inr (Or.inr ⟨hdir, hbefore, heq.trans hbetween⟩)
    · exact absurd hbetween hnot
    · rw [hbetween] at hnone
      cases hnone

/-- A file stays a file. -/
theorem Frame.exists_file (h : Frame directories files before after) {place : Location}
    (hfile : ∃ bytes, before.node? place = some (.file bytes)) :
    ∃ bytes, after.node? place = some (.file bytes) := by
  obtain ⟨bytes, hbytes⟩ := hfile
  rcases h place with heq | ⟨-, -, hafter⟩ | ⟨-, hnone, -⟩
  · exact ⟨bytes, heq.trans hbytes⟩
  · exact hafter
  · rw [hbytes] at hnone
    cases hnone

/-- Where no directory stands is not the root. -/
theorem ne_nil_of_node? {place : Location} (h : before.node? place ≠ some .directory) : place ≠ [] := by
  rintro rfl
  exact h rfl

/-- Putting a file where no directory stands. -/
theorem frame_put_file {place : Location} (hfile : files place)
    (hnode : before.node? place ≠ some .directory) (bytes : ByteArray) :
    Frame directories files before (before.put place (.file bytes)) := by
  intro other
  by_cases heq : other = place
  · subst heq
    exact Or.inr (Or.inl ⟨hfile, hnode, bytes, node?_put_self before (ne_nil_of_node? hnode) _⟩)
  · exact Or.inl (node?_put_of_ne before heq _)

/-- Putting a directory where nothing stands. -/
theorem frame_put_directory {place : Location} (hdir : directories place)
    (hnode : before.node? place = none) :
    Frame directories files before (before.put place .directory) := by
  intro other
  by_cases heq : other = place
  · subst heq
    have hroot : other ≠ [] := ne_nil_of_node? (by rw [hnode]; simp)
    exact Or.inr (Or.inr ⟨hdir, hnode, node?_put_self before hroot _⟩)
  · exact Or.inl (node?_put_of_ne before heq _)

/-- A file is written by putting it at the place of its path, where no directory stands. -/
theorem eq_put_of_write {bytes : ByteArray} (h : before.write workingDir p bytes = .ok after) :
    before.node? (p.place workingDir) ≠ some .directory ∧
      after = before.put (p.place workingDir) (.file bytes) := by
  unfold write at h
  cases hplace : before.locate workingDir p with
  | error fault =>
      rw [hplace] at h
      cases h
  | ok place =>
      rw [← eq_place_of_locate hplace]
      simp only [hplace] at h
      split at h
      · cases h
      · next old hnode =>
          cases h
          exact ⟨by rw [hnode]; simp, rfl⟩
      · next hnode =>
          cases h
          exact ⟨by rw [hnode]; simp, rfl⟩

/-- **Writing a file** changes the file at the place of its path. -/
theorem frame_write {bytes : ByteArray} (hfile : files (p.place workingDir))
    (h : before.write workingDir p bytes = .ok after) : Frame directories files before after := by
  obtain ⟨hnode, rfl⟩ := eq_put_of_write h
  exact frame_put_file hfile hnode bytes

/-- Where a file was written, it stands. -/
theorem node?_place_of_write {bytes : ByteArray} (h : before.write workingDir p bytes = .ok after) :
    after.node? (p.place workingDir) = some (.file bytes) := by
  obtain ⟨hnode, rfl⟩ := eq_put_of_write h
  exact node?_put_self before (ne_nil_of_node? hnode) _

/-- Making a directory makes one at the place of its path. -/
theorem frame_makeDir (hdir : directories (p.place workingDir))
    (h : before.makeDir workingDir p = .ok after) : Frame directories files before after := by
  unfold makeDir at h
  cases hplace : before.locate workingDir p with
  | error fault =>
      rw [hplace] at h
      cases h
  | ok place =>
      rw [← eq_place_of_locate hplace] at hdir
      simp only [hplace] at h
      split at h
      · cases h
      · next hnode =>
          cases h
          exact frame_put_directory hdir hnode

/-- A directory that could not be made changes nothing. -/
theorem settle_fst (fault : FileFault) : (fs.settle workingDir p fault).1 = fs := by
  unfold settle
  split <;> rfl

/-- Making a directory below directories that have been made. -/
theorem frame_makeDirBelow (hdir : directories (p.place workingDir)) :
    Frame directories files before (before.makeDirBelow workingDir p).1 := by
  unfold makeDirBelow
  split
  · next after h => exact frame_makeDir hdir h
  · exact .refl before
  · rw [settle_fst]
    exact .refl before

/-- Making directories makes them at the places of the beginnings of the path. -/
theorem frame_ensureDirOf {root : PathRoot} {names : List FileName}
    (hdirs : ∀ rest, rest <:+ names → directories (SystemPath.place workingDir ⟨root, rest.reverse⟩)) :
    Frame directories files before (ensureDirOf workingDir root before names).1 := by
  induction names generalizing before with
  | nil => exact frame_makeDirBelow (hdirs [] (List.suffix_refl []))
  | cons name above ih =>
      have hdir := hdirs (name :: above) (List.suffix_refl _)
      have habove : ∀ rest, rest <:+ above →
          directories (SystemPath.place workingDir ⟨root, rest.reverse⟩) := fun rest hrest =>
        hdirs rest (hrest.trans (List.suffix_cons name above))
      rw [ensureDirOf]
      split
      · next after h => exact frame_makeDir hdir h
      -- the ones above are made first, and stay even if the directory itself cannot be made
      · have hfirst : Frame directories files before (ensureDirOf workingDir root before above).1 :=
          ih habove
        split
        · next between heq =>
            rw [heq] at hfirst
            exact hfirst.trans (frame_makeDirBelow hdir)
        · next between fault heq =>
            rw [heq] at hfirst
            exact hfirst
      · rw [settle_fst]
        exact .refl before

/-- **Making a directory and the ones above it** makes directories at the places of the beginnings of its
path, and changes nothing else. -/
theorem frame_ensureDir
    (hdirs : ∀ names, names <+: p.names → directories (SystemPath.place workingDir ⟨p.root, names⟩)) :
    Frame directories files before (before.ensureDir workingDir p).1 := by
  refine frame_ensureDirOf fun rest hrest => hdirs rest.reverse ?_
  rwa [← List.reverse_suffix, List.reverse_reverse]

/-! ## Making directories and the null character -/

/-- Settling passes a fault on if it does not excuse it. -/
theorem settle_snd {fault fault' : FileFault}
    (h : (fs.settle workingDir p fault).2 = .error fault') : fault = fault' := by
  unfold settle at h
  split at h
  · cases h
  · exact Except.error.inj h

/-- Making a directory below others has a fault that does not come from the system only if the path holds the
null character. -/
theorem hasNull_of_makeDirBelow {fault : FileFault} (h : (fs.makeDirBelow workingDir p).2 = .error fault)
    (hfault : fault.isReported = false) : p.HasNull ∧ fault = .nullCharacter := by
  unfold makeDirBelow at h
  split at h
  · cases h
  · cases h
    cases hfault
  · next _ hmake =>
      rw [settle_snd h] at hmake
      exact makeDir_unreported_iff.mp ⟨hmake, hfault⟩

/-- Making directories has a fault that does not come from the system only if the path holds the null
character. -/
theorem hasNull_of_ensureDirOf {root : PathRoot} {names : List FileName} {fault : FileFault}
    (h : (ensureDirOf workingDir root fs names).2 = .error fault) (hfault : fault.isReported = false) :
    SystemPath.HasNull ⟨root, names.reverse⟩ ∧ fault = .nullCharacter := by
  induction names generalizing fs with
  | nil => exact hasNull_of_makeDirBelow h hfault
  | cons name above ih =>
      rw [ensureDirOf] at h
      split at h
      · cases h
      · split at h
        · exact hasNull_of_makeDirBelow h hfault
        -- a name further up holds the null character
        · next heq =>
            obtain ⟨habove, hnull⟩ : SystemPath.HasNull ⟨root, above.reverse⟩ ∧ fault = .nullCharacter :=
              ih (by rw [heq]; exact h)
            refine ⟨?_, hnull⟩
            unfold SystemPath.HasNull at habove ⊢
            dsimp only at habove ⊢
            rw [List.reverse_cons, List.any_append, habove, Bool.true_or]
      · next _ hmake =>
          rw [settle_snd h] at hmake
          exact makeDir_unreported_iff.mp ⟨hmake, hfault⟩

/-- Making the directories of a path has a fault that does not come from the system only if the path holds the
null character. -/
theorem hasNull_of_ensureDir {fault : FileFault} (h : (fs.ensureDir workingDir p).2 = .error fault)
    (hfault : fault.isReported = false) : p.HasNull ∧ fault = .nullCharacter := by
  have hnull := hasNull_of_ensureDirOf h hfault
  rwa [List.reverse_reverse] at hnull

/-- With the null character in the path no directory is made. -/
theorem ensureDir_of_hasNull (h : p.HasNull) :
    fs.ensureDir workingDir p = (fs, .error .nullCharacter) := by
  have hmake : fs.makeDir workingDir p = .error .nullCharacter := (makeDir_unreported_iff.mpr ⟨h, rfl⟩).1
  have hplace : fs.locate workingDir p = .error .nullCharacter := locate_of_hasNull h
  have hdir : fs.isDir workingDir p = false := by rw [isDir, hplace]
  have hsettle : fs.settle workingDir p .nullCharacter = (fs, .error .nullCharacter) := by
    rw [settle, if_neg (by rw [hdir]; exact Bool.false_ne_true)]
  obtain ⟨root, names⟩ := p
  rw [ensureDir]
  rcases hnames : names.reverse with _ | ⟨name, above⟩
  · rw [List.reverse_eq_nil_iff.mp hnames] at h
    cases h
  · have heq : (name :: above).reverse = names := by rw [← hnames, List.reverse_reverse]
    rw [ensureDirOf]
    dsimp only
    rw [heq, hmake]
    exact hsettle

end FileSystem

end ServiceBindings
