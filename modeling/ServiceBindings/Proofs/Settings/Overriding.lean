import Mathlib.Data.List.Nodup
import ServiceBindings.Proofs.Document.Reordering
import ServiceBindings.Settings

/-! # Overriding settings

Every option reads as a value of its own type (`Setting.Reading`), and reading settings is reading each option
by itself (`Settings.ofEntries_eq`): nothing may be at fault, no key left over, and the document named.

Overrides stand under the own keys of their options, and **win over the entries** that they are put over
(`ValidOverrides.checked_merge_of_override`); what is not overridden reads as before
(`ValidOverrides.checked_merge_of_none`). But entries can give an option under its plain key. If that option
is overridden, its plain key is left over, and **the settings are refused** for exactly these keys
(`Settings.clashes`, `ValidOverrides.keyFaults_merge`). Up to that, overriding settings that are accepted
gives settings that are accepted (`ValidOverrides.ofEntries_merge`). -/

namespace ServiceBindings

namespace Setting

/-! ## What options read as -/

/-- What an option reads as. -/
def Reading : Setting → Type
  | docUrl => String
  | base => String
  | templateDir => Option Path
  | outputDir => Path
  | servicesFileName => String
  | typesFileName => String
  | includePaths => List String
  | excludePaths => List String
  | blobPaths => List String
  | format => Bool

/-- Read the value of an option. -/
def read : (o : Setting) → Value → Except (List (List FaultStep × FaultKind)) o.Reading
  | docUrl => Settings.readText
  | base => Settings.readText
  | templateDir => fun v => (Settings.readPath v).map some
  | outputDir => Settings.readPath
  | servicesFileName => Settings.readText
  | typesFileName => Settings.readText
  | includePaths => Settings.readTexts
  | excludePaths => Settings.readTexts
  | blobPaths => Settings.readTexts
  | format => Settings.readFlag

end Setting

namespace Settings

/-- What an option is in settings. -/
def get (settings : Settings) : (o : Setting) → o.Reading
  | .docUrl => settings.docUrl
  | .base => settings.base
  | .templateDir => settings.templateDir
  | .outputDir => settings.outputDir
  | .servicesFileName => settings.servicesFileName
  | .typesFileName => settings.typesFileName
  | .includePaths => settings.includePaths
  | .excludePaths => settings.excludePaths
  | .blobPaths => settings.blobPaths
  | .format => settings.format

/-- The settings with the given options. -/
def ofReadings (readings : (o : Setting) → o.Reading) : Settings where
  docUrl := readings .docUrl
  base := readings .base
  templateDir := readings .templateDir
  outputDir := readings .outputDir
  servicesFileName := readings .servicesFileName
  typesFileName := readings .typesFileName
  includePaths := readings .includePaths
  excludePaths := readings .excludePaths
  blobPaths := readings .blobPaths
  format := readings .format

/-- Each option of the settings with given options is the given one. -/
@[simp] theorem get_ofReadings (readings : (o : Setting) → o.Reading) (o : Setting) :
    (ofReadings readings).get o = readings o := by
  cases o <;> rfl

end Settings

/-- An option as it is read from entries, with the faults of its value. -/
def Setting.checked (o : Setting) (workingDir : Path) (entries : List (Scalar × Value)) :
    Checked o.Reading :=
  .option o entries ((Settings.default workingDir).get o) o.read

namespace Settings

variable {workingDir : Path} {entries overrides : List (Scalar × Value)} {settings : Settings}

/-- The faults of the options and of the keys that are left over. -/
def faults (workingDir : Path) (entries : List (Scalar × Value)) : List SettingFault :=
  (Setting.all.flatMap fun o => (o.checked workingDir entries).faults) ++ keyFaults entries

/-- Validating settings is reading each option by itself. -/
theorem validate_eq (workingDir : Path) (entries : List (Scalar × Value)) :
    validate workingDir entries =
      if !(faults workingDir entries).isEmpty then .error (faults workingDir entries)
      else .ok (ofReadings fun o => (o.checked workingDir entries).value) := by
  let of (o : Setting) : List SettingFault := (o.checked workingDir entries).faults
  have hfaults : of .docUrl ++ of .base ++ of .templateDir ++ of .outputDir ++ of .servicesFileName ++
      of .typesFileName ++ of .includePaths ++ of .excludePaths ++ of .blobPaths ++ of .format ++
      keyFaults entries = faults workingDir entries := by
    simp only [of, faults, Setting.all, List.flatMap_cons, List.flatMap_nil, List.append_nil,
      List.append_assoc]
  rw [← hfaults]
  rfl

/-- **Reading settings is reading each option by itself**, and asking for the document. -/
theorem ofEntries_eq (workingDir : Path) (entries : List (Scalar × Value)) :
    ofEntries workingDir entries =
      if !(faults workingDir entries).isEmpty then .error (.faulty (faults workingDir entries))
      else if Text.isBlank (Setting.docUrl.checked workingDir entries).value then .error .noDocument
      else .ok (ofReadings fun o => (o.checked workingDir entries).value) := by
  rw [ofEntries, validate_eq]
  split
  · rfl
  · rfl

/-- Settings are accepted if no option and no key is at fault and the document is named; they are then what
their options read as. -/
theorem ofEntries_eq_ok_iff : ofEntries workingDir entries = .ok settings ↔
    (∀ o : Setting, (o.checked workingDir entries).faults = []) ∧ keyFaults entries = [] ∧
      Text.isBlank (Setting.docUrl.checked workingDir entries).value = false ∧
      settings = ofReadings fun o => (o.checked workingDir entries).value := by
  have hnone : faults workingDir entries = [] ↔
      (∀ o : Setting, (o.checked workingDir entries).faults = []) ∧ keyFaults entries = [] := by
    rw [faults, List.append_eq_nil_iff, List.flatMap_eq_nil_iff]
    exact and_congr_left' ⟨fun h o => h o (by cases o <;> decide), fun h o _ => h o⟩
  rw [ofEntries_eq, ← and_assoc, ← hnone]
  by_cases hfaults : faults workingDir entries = []
  · cases hblank : Text.isBlank (Setting.docUrl.checked workingDir entries).value with
    | true => simp [hfaults]
    | false => simp [hfaults, eq_comm]
  · simp [hfaults]

end Settings

/-! ## Entries that are put over others -/

/-- A key is the same as a text exactly if it is that text. -/
theorem Scalar.sameKey_text_right (key : Scalar) (t : String) :
    key.sameKey (.text t) = decide (key = .text t) := by
  cases key with
  | float x =>
      unfold sameKey
      rw [show (Scalar.text t).quotient? = none from rfl]
      cases (Scalar.float x).quotient? with
      | none => rfl
      | some => simp
  | _ => simp [sameKey, quotient?]

/-- For a text key, keys are compared by equality. -/
theorem insertBy_sameKey_text (t : String) (v : Value) (entries : List (Scalar × Value)) :
    Entries.insertBy Scalar.sameKey (.text t) v entries = Entries.insert (.text t) v entries := by
  induction entries with
  | nil => rfl
  | cons entry rest ih =>
      obtain ⟨key, w⟩ := entry
      rw [Entries.insertBy, Entries.insert_cons, Scalar.sameKey_text_right, ih]
      by_cases h : key = .text t <;> simp [h]

/-- The keys after one value was set are the old ones and perhaps the key of that value. -/
theorem keys_insert (key : Scalar) (v : Value) (entries : List (Scalar × Value)) :
    ∃ news, (Entries.insert key v entries).map Prod.fst = entries.map Prod.fst ++ news ∧ news ⊆ [key] := by
  induction entries with
  | nil => exact ⟨[key], rfl, List.Subset.refl _⟩
  | cons entry rest ih =>
      obtain ⟨k, w⟩ := entry
      rw [Entries.insert_cons]
      by_cases h : k = key
      · exact ⟨[], by simp [h], by simp⟩
      · obtain ⟨news, hnews, hsub⟩ := ih
        exact ⟨news, by simp [h, hnews], hsub⟩

section Putting

variable {entries pairs : List (Scalar × Value)}

/-- The first pair is put over the entries, and then the others are. -/
theorem insertAllBy_cons_text (t : String) (v : Value) :
    Entries.insertAllBy Scalar.sameKey entries ((.text t, v) :: pairs)
      = Entries.insertAllBy Scalar.sameKey (Entries.insert (.text t) v entries) pairs := by
  rw [← insertBy_sameKey_text]
  rfl

/-- The keys after pairs with text keys were put over entries are the old ones, in order, and then new ones
of the pairs. -/
theorem keys_insertAllBy (entries pairs : List (Scalar × Value))
    (htexts : ∀ pair ∈ pairs, ∃ t, pair.1 = .text t) :
    ∃ news, (Entries.insertAllBy Scalar.sameKey entries pairs).map Prod.fst = entries.map Prod.fst ++ news ∧
      news ⊆ pairs.map Prod.fst := by
  induction pairs generalizing entries with
  | nil => exact ⟨[], by simp [Entries.insertAllBy], by simp⟩
  | cons pair rest ih =>
      obtain ⟨key, v⟩ := pair
      obtain ⟨t, rfl⟩ := htexts (key, v) List.mem_cons_self
      obtain ⟨first, hfirst, hsub⟩ := keys_insert (.text t) v entries
      obtain ⟨others, hothers, hsub'⟩ := ih (Entries.insert (.text t) v entries)
        fun pair hpair => htexts pair (List.mem_cons_of_mem _ hpair)
      refine ⟨first ++ others, by rw [insertAllBy_cons_text, hothers, hfirst, List.append_assoc], ?_⟩
      intro key hkey
      rcases List.mem_append.mp hkey with hkey | hkey
      · rw [List.mem_singleton.mp (hsub hkey)]
        exact List.mem_cons_self
      · exact List.mem_cons_of_mem _ (hsub' hkey)

/-- **Pairs that are put over entries come first**: under a text key stands the value of the pair with that
key, and without one the value that stood there. -/
theorem lookupText_insertAllBy (hdistinct : (pairs.map Prod.fst).Nodup)
    (htexts : ∀ pair ∈ pairs, ∃ t, pair.1 = .text t) (key : String) :
    Value.lookupText key (Entries.insertAllBy Scalar.sameKey entries pairs)
      = (Value.lookupText key pairs).or (Value.lookupText key entries) := by
  induction pairs generalizing entries with
  | nil => rfl
  | cons pair rest ih =>
      obtain ⟨k, v⟩ := pair
      obtain ⟨t, rfl⟩ := htexts (k, v) List.mem_cons_self
      rw [List.map_cons, List.nodup_cons] at hdistinct
      rw [insertAllBy_cons_text,
        ih hdistinct.2 fun pair hpair => htexts pair (List.mem_cons_of_mem _ hpair)]
      by_cases h : key = t
      · subst h
        -- no later pair has the key
        have hnone : Value.lookupText key rest = none := by
          rw [Value.lookupText, List.lookup_eq_none_iff]
          intro pair hpair
          have hne : Scalar.text key ≠ pair.1 := fun heq =>
            hdistinct.1 (List.mem_map.mpr ⟨pair, hpair, heq.symm⟩)
          simpa using hne
        rw [hnone, Option.none_or, Value.lookupText, Entries.lookup_insert_self, Value.lookupText,
          List.lookup_cons_self, Option.some_or]
      · have hne : Scalar.text key ≠ .text t := by simpa using h
        have hpass : Value.lookupText key ((.text t, v) :: rest) = Value.lookupText key rest := by
          rw [Value.lookupText, List.lookup_cons, beq_false_of_ne hne, Value.lookupText]
        rw [hpass, Value.lookupText, Value.lookupText, Entries.lookup_insert_of_ne hne, Value.lookupText]

end Putting

/-! ## Overrides -/

namespace Setting

/-- Every option is listed. -/
theorem mem_all (o : Setting) : o ∈ all := by
  cases o <;> decide

/-- An option is determined by its own key. -/
theorem eq_of_key_eq {o o' : Setting} (h : o.key = o'.key) : o = o' := by
  cases o <;> cases o' <;> first | rfl | exact absurd h (by decide)

/-- An option is determined by its plain key. -/
theorem eq_of_plainKey_eq {o o' : Setting} (h : o.plainKey = o'.plainKey) : o = o' := by
  cases o <;> cases o' <;> first | rfl | exact absurd h (by decide)

/-- The plain key of an option is not the own key of another one. -/
theorem eq_of_plainKey_eq_key {o o' : Setting} (h : o.plainKey = o'.key) : o = o' := by
  cases o <;> cases o' <;> first | rfl | exact absurd h (by decide)

/-- The value that overrides give an option, unless it is null. -/
def override? (o : Setting) (overrides : List (Scalar × Value)) : Option Value :=
  (Value.lookupText o.key overrides).filter fun v => v ≠ .null

/-- **A value is valid for an option**: it can be read, and the location of the document is not blank. -/
def Accepts : Setting → Value → Prop
  | docUrl, v => ∃ location, Settings.readText v = .ok location ∧ Text.isBlank location = false
  | o, v => ∃ x, o.read v = .ok x

/-- A valid value can be read. -/
theorem Accepts.exists_read {o : Setting} {v : Value} (h : o.Accepts v) : ∃ x, o.read v = .ok x := by
  cases o with
  | docUrl =>
      obtain ⟨location, hread, -⟩ := h
      exact ⟨location, hread⟩
  | _ => exact h

end Setting

namespace Settings

/-- **Overrides of options**: each stands under the own key of its option and is valid for it, or is null. -/
structure ValidOverrides (overrides : List (Scalar × Value)) : Prop where
  /-- No key is given twice. -/
  distinct : (overrides.map Prod.fst).Nodup
  /-- What is not null is a valid value for the option with that key. -/
  valid : ∀ key v, (key, v) ∈ overrides → v ≠ .null → ∃ o : Setting, key = .text o.key ∧ o.Accepts v

/-- Whether overrides make a key left over: it is the plain key of an option that is overridden under its own
key. -/
def displaces (overrides : List (Scalar × Value)) (name : String) : Bool :=
  Setting.all.any fun o => decide (name = o.plainKey ∧ name ≠ o.key) && (o.override? overrides).isSome

/-- **The keys of entries that overrides make left over.** -/
def clashes (entries overrides : List (Scalar × Value)) : List String :=
  (Value.textKeys entries).filter (displaces overrides)

variable {workingDir : Path} {entries overrides : List (Scalar × Value)} {settings : Settings}
  {o : Setting} {v : Value}

/-- The text keys are the texts among the keys. -/
theorem textKeys_eq (pairs : List (Scalar × Value)) :
    Value.textKeys pairs = (pairs.map Prod.fst).filterMap fun key => (Value.scalar key).text? := by
  rw [List.filterMap_map]
  rfl

/-- Different keys have different text keys among them. -/
theorem nodup_textKeys {pairs : List (Scalar × Value)} (h : (pairs.map Prod.fst).Nodup) :
    (Value.textKeys pairs).Nodup := by
  rw [textKeys_eq]
  refine h.filterMap fun key key' t ht ht' => ?_
  cases key <;> cases ht
  cases key' <;> cases ht'
  rfl

/-- The overrides that are not null. -/
def given (overrides : List (Scalar × Value)) : List (Scalar × Value) :=
  overrides.filter fun override => override.2 ≠ .null

namespace ValidOverrides

variable (h : ValidOverrides overrides)

include h

/-- The overrides that are not null have different keys. -/
theorem distinct_given : ((given overrides).map Prod.fst).Nodup :=
  h.distinct.sublist (List.filter_sublist.map _)

/-- What is not null among the overrides is found under its key. -/
theorem lookupText_given (key : String) : Value.lookupText key (given overrides) =
    (Value.lookupText key overrides).filter fun v => v ≠ .null := by
  ext v
  rw [Value.lookupText_eq_some_iff (nodup_textKeys h.distinct_given), given, List.mem_filter,
    Option.filter_eq_some_iff, Value.lookupText_eq_some_iff (nodup_textKeys h.distinct)]

/-- What is not null among the overrides stands under the own key of an option that it overrides. -/
theorem override?_of_mem_given {key : Scalar} (hmem : (key, v) ∈ given overrides) :
    ∃ o : Setting, key = .text o.key ∧ o.override? overrides = some v := by
  obtain ⟨hin, hnull⟩ := List.mem_filter.mp hmem
  obtain ⟨o, rfl, -⟩ := h.valid key v hin (by simpa using hnull)
  refine ⟨o, rfl, ?_⟩
  rw [Setting.override?, ← h.lookupText_given]
  exact (Value.lookupText_eq_some_iff (nodup_textKeys h.distinct_given)).mpr hmem

/-- The value of an override is valid for its option. -/
theorem accepts (ho : o.override? overrides = some v) : o.Accepts v := by
  rw [Setting.override?, ← h.lookupText_given,
    Value.lookupText_eq_some_iff (nodup_textKeys h.distinct_given)] at ho
  obtain ⟨hin, hnull⟩ := List.mem_filter.mp ho
  obtain ⟨o', hkey, haccepts⟩ := h.valid _ v hin (by simpa using hnull)
  rw [Setting.eq_of_key_eq (Scalar.text.inj hkey)]
  exact haccepts

/-- **Overrides win**: under a key stands the override that is not null, and without one the entry. -/
theorem lookupText_merge (entries : List (Scalar × Value)) (key : String) :
    Value.lookupText key (merge entries overrides) =
      ((Value.lookupText key overrides).filter fun v => v ≠ .null).or (Value.lookupText key entries) := by
  rw [← h.lookupText_given]
  refine lookupText_insertAllBy h.distinct_given (fun pair hpair => ?_) key
  obtain ⟨o, hkey, -⟩ := h.override?_of_mem_given hpair
  exact ⟨o.key, hkey⟩

/-- Under the own key of an option stands its override, and without one the entry. -/
theorem lookupText_key_merge (entries : List (Scalar × Value)) (o : Setting) :
    Value.lookupText o.key (merge entries overrides) =
      (o.override? overrides).or (Value.lookupText o.key entries) :=
  h.lookupText_merge entries o.key

/-- Under the plain key of an option that is not overridden stands the entry. -/
theorem lookupText_plainKey_merge (entries : List (Scalar × Value)) (ho : o.override? overrides = none) :
    Value.lookupText o.plainKey (merge entries overrides) = Value.lookupText o.plainKey entries := by
  have hnone : (Value.lookupText o.plainKey overrides).filter (fun v => decide (v ≠ .null)) = none := by
    rw [← h.lookupText_given]
    cases hlookup : Value.lookupText o.plainKey (given overrides) with
    | none => rfl
    | some v =>
        -- the plain key would be the own key of an option that is overridden
        rw [Value.lookupText_eq_some_iff (nodup_textKeys h.distinct_given)] at hlookup
        obtain ⟨o', hkey, ho'⟩ := h.override?_of_mem_given hlookup
        rw [← Setting.eq_of_plainKey_eq_key (Scalar.text.inj hkey), ho] at ho'
        cases ho'
  rw [h.lookupText_merge, hnone, Option.none_or]

/-! ## Options after overriding -/

/-- An option that is overridden is given under its own key. -/
theorem usedKey_merge_of_override (entries : List (Scalar × Value))
    (ho : o.override? overrides = some v) : o.usedKey (merge entries overrides) = o.key := by
  rw [Setting.usedKey, h.lookupText_key_merge, ho, Option.some_or, Option.isSome_some, if_pos rfl]

/-- An option that is not overridden is given under the key that it was given under. -/
theorem usedKey_merge_of_none (entries : List (Scalar × Value)) (ho : o.override? overrides = none) :
    o.usedKey (merge entries overrides) = o.usedKey entries := by
  rw [Setting.usedKey, h.lookupText_key_merge, ho, Option.none_or, Setting.usedKey]

/-- **An option that is overridden reads as its override.** -/
theorem checked_merge_of_override (workingDir : Path) (entries : List (Scalar × Value))
    (ho : o.override? overrides = some v) {x : o.Reading} (hread : o.read v = .ok x) :
    o.checked workingDir (merge entries overrides) = ⟨x, []⟩ := by
  have hgiven : o.given? (merge entries overrides) = some v := by
    rw [Setting.given?, h.usedKey_merge_of_override entries ho, h.lookupText_key_merge, ho, Option.some_or]
  rw [Setting.checked, Checked.option, hgiven]
  simp only [hread]

/-- **An option that is not overridden reads as before.** -/
theorem checked_merge_of_none (workingDir : Path) (entries : List (Scalar × Value))
    (ho : o.override? overrides = none) :
    o.checked workingDir (merge entries overrides) = o.checked workingDir entries := by
  have hused := h.usedKey_merge_of_none entries ho
  have hgiven : o.given? (merge entries overrides) = o.given? entries := by
    rw [Setting.given?, Setting.given?, hused, Setting.usedKey]
    split
    · rw [h.lookupText_key_merge, ho, Option.none_or]
    · rw [h.lookupText_plainKey_merge entries ho]
  rw [Setting.checked, Setting.checked, Checked.option, Checked.option, hgiven, hused]

end ValidOverrides

/-! ## Keys that are left over -/

/-- The fault of a key, if none of the used keys is that key. -/
def keyFault (used : List String) : Scalar → Option SettingFault
  | .text name => if name ∈ used then none else some ⟨[.name name], .keyLeftOver⟩
  | key => some ⟨[.ofKey key], .keyNotText⟩

/-- The fault of a key that is left over. -/
def leftOver (name : String) : SettingFault := ⟨[.name name], .keyLeftOver⟩

/-- The key that an option is given under is one of the used keys. -/
theorem mem_used {name : String} : name ∈ (Setting.all.map fun o => o.usedKey entries) ↔
    ∃ o : Setting, o.usedKey entries = name := by
  rw [List.mem_map]
  exact exists_congr fun o => and_iff_right (Setting.mem_all o)

/-- The faults of keys are those of each key. -/
theorem keyFaults_eq (entries : List (Scalar × Value)) : keyFaults entries =
    (entries.map Prod.fst).filterMap (keyFault (Setting.all.map fun o => o.usedKey entries)) := by
  rw [List.filterMap_map]
  refine List.filterMap_congr fun entry _ => ?_
  obtain ⟨key, v⟩ := entry
  cases key <;> rfl

/-- If no key is left over, every key is the used one of some option. -/
theorem exists_usedKey_of_keyFaults (h : keyFaults entries = []) {key : Scalar}
    (hkey : key ∈ entries.map Prod.fst) : ∃ o : Setting, key = .text (o.usedKey entries) := by
  rw [keyFaults_eq, List.filterMap_eq_nil_iff] at h
  have hnone := h key hkey
  cases key with
  | text name =>
      rw [keyFault] at hnone
      split at hnone
      · next hused =>
          obtain ⟨o, rfl⟩ := mem_used.mp hused
          exact ⟨o, rfl⟩
      · cases hnone
  | _ => cases hnone

/-- The used key of an option is one of its two keys. -/
theorem usedKey_cases (o : Setting) (entries : List (Scalar × Value)) :
    o.usedKey entries = o.key ∨ o.usedKey entries = o.plainKey := by
  rw [Setting.usedKey]
  split
  · exact Or.inl rfl
  · exact Or.inr rfl

/-- A key is made left over if it is the plain key, but not the own key, of an option that is overridden. -/
theorem displaces_iff {name : String} : displaces overrides name = true ↔
    ∃ o : Setting, name = o.plainKey ∧ name ≠ o.key ∧ (o.override? overrides).isSome := by
  rw [displaces, List.any_eq_true]
  constructor
  · rintro ⟨o, -, ho⟩
    rw [Bool.and_eq_true, decide_eq_true_iff] at ho
    exact ⟨o, ho.1.1, ho.1.2, ho.2⟩
  · rintro ⟨o, hplain, hown, hsome⟩
    refine ⟨o, Setting.mem_all o, ?_⟩
    rw [Bool.and_eq_true, decide_eq_true_iff]
    exact ⟨⟨hplain, hown⟩, hsome⟩

/-- **No key is left over** exactly if no option that is overridden is given under its plain
key. -/
theorem clashes_eq_nil_iff : clashes entries overrides = [] ↔ ∀ o : Setting, o.plainKey ≠ o.key →
    (o.override? overrides).isSome → o.plainKey ∉ Value.textKeys entries := by
  rw [clashes, List.filter_eq_nil_iff]
  constructor
  · intro hnone o hne hsome hmem
    exact hnone o.plainKey hmem (displaces_iff.mpr ⟨o, rfl, hne, hsome⟩)
  · intro hplain name hmem hdisplaced
    obtain ⟨o, rfl, hne, hsome⟩ := displaces_iff.mp hdisplaced
    exact hplain o hne hsome hmem

namespace ValidOverrides

variable (h : ValidOverrides overrides)

include h

/-- A key that was used is used after overriding unless it is made left over. -/
theorem mem_used_merge_iff (entries : List (Scalar × Value)) (o : Setting) :
    o.usedKey entries ∈ (Setting.all.map fun o => o.usedKey (merge entries overrides)) ↔
      displaces overrides (o.usedKey entries) = false := by
  rw [mem_used, ← Bool.not_eq_true, displaces_iff]
  constructor
  · rintro ⟨o₁, hused⟩ ⟨o₂, hplain, hown, hsome⟩
    obtain ⟨v, hv⟩ := Option.isSome_iff_exists.mp hsome
    rw [← hused] at hplain hown
    -- the option that uses the key is the one that is overridden, which uses its own key
    have hsame : o₁ = o₂ := by
      rcases usedKey_cases o₁ (merge entries overrides) with hkey | hkey
      · rw [hkey] at hplain
        exact (Setting.eq_of_plainKey_eq_key hplain.symm).symm
      · rw [hkey] at hplain
        exact Setting.eq_of_plainKey_eq hplain
    rw [hsame] at hown
    exact hown (h.usedKey_merge_of_override entries hv)
  · intro hclash
    refine ⟨o, ?_⟩
    cases ho : o.override? overrides with
    | none => exact h.usedKey_merge_of_none entries ho
    | some v =>
        rw [h.usedKey_merge_of_override entries ho]
        by_contra hown
        rcases usedKey_cases o entries with hkey | hkey
        · exact hown hkey.symm
        · exact hclash ⟨o, hkey, Ne.symm hown, by rw [ho, Option.isSome_some]⟩

/-- **The keys that are left over after overriding** are those that the overrides make left over. -/
theorem keyFaults_merge (haccepted : keyFaults entries = []) :
    keyFaults (merge entries overrides) = (clashes entries overrides).map leftOver := by
  obtain ⟨news, hkeys, hsub⟩ := keys_insertAllBy entries (given overrides)
    fun pair hpair => by
      obtain ⟨o, hkey, -⟩ := h.override?_of_mem_given hpair
      exact ⟨o.key, hkey⟩
  let used : List String := Setting.all.map fun o => o.usedKey (merge entries overrides)
  -- a new key is the own key of an option that is overridden
  have hnews : news.filterMap (keyFault used) = [] := by
    rw [List.filterMap_eq_nil_iff]
    intro key hkey
    obtain ⟨pair, hpair, rfl⟩ := List.mem_map.mp (hsub hkey)
    obtain ⟨o, hown, ho⟩ := h.override?_of_mem_given hpair
    have hused : o.key ∈ used := mem_used.mpr ⟨o, h.usedKey_merge_of_override entries ho⟩
    rw [hown, keyFault, if_pos hused]
  have holds : (entries.map Prod.fst).filterMap (keyFault used) =
      (clashes entries overrides).map leftOver := by
    rw [clashes, textKeys_eq, List.filter_filterMap, List.map_filterMap]
    refine List.filterMap_congr fun key hkey => ?_
    obtain ⟨o, rfl⟩ := exists_usedKey_of_keyFaults haccepted hkey
    have hused := h.mem_used_merge_iff entries o
    cases hdisplaced : displaces overrides (o.usedKey entries) with
    | true =>
        rw [keyFault, if_neg fun hmem => by simp [hused.mp hmem] at hdisplaced]
        simp [Value.text?, Option.filter, hdisplaced, leftOver]
    | false =>
        rw [keyFault, if_pos (hused.mpr hdisplaced)]
        simp [Value.text?, Option.filter, hdisplaced]
  rw [keyFaults_eq, show (merge entries overrides).map Prod.fst = entries.map Prod.fst ++ news from hkeys,
    List.filterMap_append, holds, hnews, List.append_nil]

/-- **Overriding settings that are accepted.** If the overrides make no key left over, they win: every option
that is overridden is its override, and every other one is as before. Otherwise the settings are refused for
exactly the keys that are left over. -/
theorem ofEntries_merge (haccepted : ofEntries workingDir entries = .ok settings) :
    (clashes entries overrides = [] → ∃ merged, ofEntries workingDir (merge entries overrides) = .ok merged ∧
      ∀ o : Setting, (∀ v, o.override? overrides = some v → o.read v = .ok (merged.get o)) ∧
        (o.override? overrides = none → merged.get o = settings.get o)) ∧
    (clashes entries overrides ≠ [] → ofEntries workingDir (merge entries overrides) =
      .error (.faulty ((clashes entries overrides).map leftOver))) := by
  obtain ⟨hfaults, hkeys, hblank, rfl⟩ := ofEntries_eq_ok_iff.mp haccepted
  have hmerged := h.keyFaults_merge hkeys
  have hoption : ∀ o : Setting, (o.checked workingDir (merge entries overrides)).faults = [] := by
    intro o
    cases ho : o.override? overrides with
    | none => rw [h.checked_merge_of_none workingDir entries ho, hfaults o]
    | some v =>
        obtain ⟨x, hread⟩ := (h.accepts ho).exists_read
        rw [h.checked_merge_of_override workingDir entries ho hread]
  constructor
  · intro hclashes
    rw [hclashes, List.map_nil] at hmerged
    refine ⟨_, ofEntries_eq_ok_iff.mpr ⟨hoption, hmerged, ?_, rfl⟩, fun o => ⟨fun v ho => ?_, fun ho => ?_⟩⟩
    · cases ho : Setting.docUrl.override? overrides with
      | none => rw [h.checked_merge_of_none workingDir entries ho, hblank]
      | some v =>
          obtain ⟨location, hread, hlocation⟩ := h.accepts ho
          rw [h.checked_merge_of_override workingDir entries ho hread]
          exact hlocation
    · obtain ⟨x, hread⟩ := (h.accepts ho).exists_read
      rw [get_ofReadings, h.checked_merge_of_override workingDir entries ho hread, hread]
    · rw [get_ofReadings, h.checked_merge_of_none workingDir entries ho, get_ofReadings]
  · intro hclashes
    have hall : faults workingDir (merge entries overrides) = (clashes entries overrides).map leftOver := by
      rw [Settings.faults, List.flatMap_eq_nil_iff.mpr fun o _ => hoption o, List.nil_append, hmerged]
    rw [ofEntries_eq, hall, if_pos]
    simpa using hclashes

end ValidOverrides

/-! ## Settings that name the document and a directory -/

/-- An override of the output directory. -/
def outputDirOverride (dir : String) : List (Scalar × Value) := [(.text "outputDir", .scalar (.text dir))]

/-- An override of the output directory is valid. -/
theorem validOverrides_outputDir (dir : String) : ValidOverrides (outputDirOverride dir) where
  distinct := List.nodup_singleton _
  valid := by
    intro key v hmem hnull
    obtain ⟨rfl, rfl⟩ := Prod.mk.inj (List.mem_singleton.mp hmem)
    exact ⟨.outputDir, rfl, .ofText dir, rfl⟩

/-- Entries that name a document, and an output directory under a given key. -/
def documentEntries (dirKey : String) : List (Scalar × Value) :=
  [(.text "docUrl", .scalar (.text "d")), (.text dirKey, .scalar (.text "a"))]

/-- An output directory under its own key is overridden. -/
theorem ofEntries_merge_outputDir : ∃ settings merged,
    ofEntries (.ofText "/") (documentEntries "outputDir") = .ok settings ∧
    ofEntries (.ofText "/") (merge (documentEntries "outputDir") (outputDirOverride "b")) = .ok merged ∧
    merged.outputDir = .ofText "b" ∧ merged.docUrl = settings.docUrl := by
  obtain ⟨settings, haccepted⟩ : ∃ settings,
      ofEntries (.ofText "/") (documentEntries "outputDir") = .ok settings := ⟨_, rfl⟩
  obtain ⟨merged, hmerged, hoptions⟩ :=
    ((validOverrides_outputDir "b").ofEntries_merge haccepted).1 (by decide)
  have hdir : Settings.readPath (.scalar (.text "b")) = .ok merged.outputDir :=
    (hoptions .outputDir).1 (.scalar (.text "b")) (by decide)
  exact ⟨settings, merged, haccepted, hmerged, (Except.ok.inj hdir).symm, (hoptions .docUrl).2 (by decide)⟩

/-- An output directory under its plain key is not overridden: entries that are accepted are refused with an
override that is valid. -/
theorem ofEntries_merge_output_dir :
    (∃ settings, ofEntries (.ofText "/") (documentEntries "output_dir") = .ok settings) ∧
    ValidOverrides (outputDirOverride "b") ∧
    ofEntries (.ofText "/") (merge (documentEntries "output_dir") (outputDirOverride "b")) =
      .error (.faulty [leftOver "output_dir"]) :=
  ⟨⟨_, rfl⟩, validOverrides_outputDir "b", by rfl⟩

end Settings

end ServiceBindings
