import Mathlib.Data.List.Nodup
import Mathlib.Data.List.Perm.Basic
import ServiceBindings.Proofs.Schema.Expansion
import ServiceBindings.Proofs.Schema.Written

/-! # Mappings whose entries come in another order

Where no text key stands twice in a mapping, looking a key up does not depend on the order of the entries
(`Value.lookupText_eq_of_perm`). Two values are **equal up to this order** if they are equal, or mappings
with the same entries (`Value.Reordered`), and two documents have **roots equal up to order** if every key
leads to such values (`Value.RootReordered`).

Then every pointer leads to values that are equal up to order, or fails alike
(`Value.RootReordered.resolve`), and so do references that are followed (`Value.RootReordered.follow`). -/

namespace ServiceBindings

/-! ## Computations compared -/

/-- Two computations fail alike, or succeed with related results. -/
inductive SameOutcome {ε α β : Type} (R : α → β → Prop) : Except ε α → Except ε β → Prop where
  /-- Both succeed. -/
  | ok {a : α} {b : β} : R a b → SameOutcome R (.ok a) (.ok b)
  /-- Both fail, with one error. -/
  | error (e : ε) : SameOutcome R (.error e) (.error e)

namespace SameOutcome

variable {ε α β γ δ : Type} {R : α → β → Prop} {x : Except ε α} {y : Except ε β}

/-- What continues alike from related results has the same outcome. -/
theorem bind {S : γ → δ → Prop} (h : SameOutcome R x y) {f : α → Except ε γ} {g : β → Except ε δ}
    (hcontinue : ∀ a b, R a b → SameOutcome S (f a) (g b)) : SameOutcome S (x >>= f) (y >>= g) := by
  cases h with
  | ok hR => exact hcontinue _ _ hR
  | error e => exact .error e

/-- What continues equally from related results is equal. -/
theorem bind_eq (h : SameOutcome R x y) {f : α → Except ε γ} {g : β → Except ε γ}
    (hcontinue : ∀ a b, R a b → f a = g b) : x >>= f = y >>= g := by
  cases h with
  | ok hR => exact hcontinue _ _ hR
  | error e => rfl

/-- A weaker relation will do as well. -/
theorem mono (h : SameOutcome R x y) {S : α → β → Prop} (hsub : ∀ a b, R a b → S a b) :
    SameOutcome S x y := by
  cases h with
  | ok hR => exact .ok (hsub _ _ hR)
  | error e => exact .error e

/-- Computations that are run on lists of related inputs, and have the same outcome on each. -/
theorem mapM {S : γ → δ → Prop} {f : α → Except ε γ} {g : β → Except ε δ} {l : List α} {m : List β}
    (h : List.Forall₂ (fun a b => SameOutcome S (f a) (g b)) l m) :
    SameOutcome (List.Forall₂ S) (l.mapM f) (m.mapM g) := by
  induction h with
  | nil => exact .ok .nil
  | cons hhead _ ih =>
      rw [List.mapM_cons, List.mapM_cons]
      refine hhead.bind fun c d hcd => ih.bind fun cs ds hrest => ?_
      exact .ok (.cons hcd hrest)

/-- Computations that agree after a function have results that agree after it. -/
theorem of_map_eq {f : α → β} {x y : Except ε α} (h : f <$> x = f <$> y) :
    SameOutcome (fun a b => f a = f b) x y := by
  cases x with
  | ok a =>
      cases y with
      | ok b => exact .ok (Except.ok.inj h)
      | error => cases h
  | error e =>
      cases y with
      | ok => cases h
      | error => cases h; exact .error e

end SameOutcome

/-! ## Counting different texts -/

/-- What remains of a list without repetitions repeats nothing. -/
theorem nodup_eraseDups (texts : List String) : texts.eraseDups.Nodup := by
  -- behind the first text its repetitions are erased, so the induction is on the length
  induction hn : texts.length using Nat.strongRecOn generalizing texts with
  | ind n ih =>
      cases texts with
      | nil => exact List.nodup_nil
      | cons text rest =>
          rw [List.eraseDups_cons, List.nodup_cons]
          constructor
          · simp
          · refine ih _ ?_ _ rfl
            rw [← hn, List.length_cons]
            exact Nat.lt_succ_of_le (List.length_filter_le _ _)

/-- Lists of the same texts have as many different ones. -/
theorem distinctCount_congr {texts further : List String} (h : ∀ q, q ∈ texts ↔ q ∈ further) :
    distinctCount texts = distinctCount further := by
  refine List.Perm.length_eq ((List.perm_ext_iff_of_nodup (nodup_eraseDups _) (nodup_eraseDups _)).mpr ?_)
  intro q
  rw [List.mem_eraseDups, List.mem_eraseDups, h q]

namespace Value

/-! ## Text keys -/

/-- The keys of a mapping that are texts. -/
def textKeys (entries : List (Scalar × Value)) : List String :=
  entries.filterMap fun entry => (scalar entry.1).text?

section TextKeys

variable {entries entries' : List (Scalar × Value)} {key : String} {v : Value}

/-- The text keys are those that have an entry. -/
theorem mem_textKeys : key ∈ textKeys entries ↔ ∃ v, (.text key, v) ∈ entries := by
  rw [textKeys, List.mem_filterMap]
  constructor
  · rintro ⟨⟨k, v⟩, hmem, hkey⟩
    cases k with
    | text k =>
        cases hkey
        exact ⟨v, hmem⟩
    | _ => cases hkey
  · rintro ⟨v, hmem⟩
    exact ⟨_, hmem, rfl⟩

/-- The text keys of a mapping with one entry more. -/
theorem textKeys_cons (entry : Scalar × Value) :
    textKeys (entry :: entries) = (scalar entry.1).text?.toList ++ textKeys entries := by
  rw [textKeys, List.filterMap_cons]
  cases (scalar entry.1).text? <;> rfl

/-- Without repeated text keys, the value under a key is that of its entry. -/
theorem lookupText_eq_some_iff (h : (textKeys entries).Nodup) :
    lookupText key entries = some v ↔ (.text key, v) ∈ entries := by
  induction entries with
  | nil => simp [lookupText]
  | cons entry rest ih =>
      obtain ⟨k, w⟩ := entry
      rw [textKeys_cons] at h
      have hrest := ih (List.nodup_append.mp h).2.1
      rw [lookupText, List.lookup_cons, List.mem_cons]
      by_cases hk : k = .text key
      · -- the key is not among those of the rest, so the entry in front is the one
        subst hk
        have hnew : (.text key, v) ∉ rest := fun hmem =>
          (List.nodup_append.mp h).2.2 key (List.mem_singleton_self key) key
            (mem_textKeys.mpr ⟨v, hmem⟩) rfl
        simp [hnew, eq_comm]
      · have hne : (Scalar.text key == k) = false := by simpa using Ne.symm hk
        have hother : (Scalar.text key, v) ≠ (k, w) := fun heq => hk (Prod.mk.inj heq).1.symm
        rw [hne]
        exact hrest.trans ⟨Or.inr, fun hor => hor.resolve_left hother⟩

/-- Setting the value of a key adds the key if it is a new text, and no text key otherwise. -/
theorem textKeys_insertBy (k : Scalar) (v : Value) (entries : List (Scalar × Value)) :
    textKeys (Entries.insertBy Scalar.sameKey k v entries) = textKeys entries ∨
      ∃ t, k = .text t ∧ t ∉ textKeys entries ∧
        textKeys (Entries.insertBy Scalar.sameKey k v entries) = textKeys entries ++ [t] := by
  induction entries with
  | nil =>
      cases k with
      | text t => exact Or.inr ⟨t, rfl, List.not_mem_nil, rfl⟩
      | _ => exact Or.inl rfl
  | cons entry rest ih =>
      obtain ⟨l, u⟩ := entry
      rw [Entries.insertBy]
      split
      · exact Or.inl rfl
      · next hother =>
          simp only [textKeys_cons]
          rcases ih with heq | ⟨t, rfl, hnew, heq⟩
          · exact Or.inl (by rw [heq])
          · refine Or.inr ⟨t, rfl, ?_, by rw [heq, List.append_assoc]⟩
            rw [List.mem_append, not_or]
            refine ⟨fun hmem => hother ?_, hnew⟩
            cases l with
            | text s =>
                rw [List.mem_singleton.mp hmem, Scalar.sameKey_text, decide_eq_true rfl]
            | _ => cases hmem

/-- **A mapping that is built from pairs repeats no text key.** -/
theorem nodup_textKeys_mapping (pairs : List (Scalar × Value)) :
    (textKeys (Entries.ofListBy Scalar.sameKey pairs)).Nodup := by
  -- the pairs come one after the other, so the statement is about entries that are there already
  suffices hall : ∀ done : List (Scalar × Value), (textKeys done).Nodup →
      (textKeys (Entries.insertAllBy Scalar.sameKey done pairs)).Nodup from hall [] List.nodup_nil
  induction pairs with
  | nil => exact fun done hdone => hdone
  | cons pair rest ih =>
      intro done hdone
      refine ih _ ?_
      rcases textKeys_insertBy pair.1 pair.2 done with heq | ⟨t, -, hnew, heq⟩
      · rwa [heq]
      · rw [heq, List.nodup_append_comm]
        exact List.nodup_cons.mpr ⟨hnew, hdone⟩

/-- Mappings with the same entries have the same text keys. -/
theorem textKeys_perm (h : entries.Perm entries') : (textKeys entries).Perm (textKeys entries') :=
  h.filterMap _

/-- **Looking a key up does not depend on the order of the entries**, where no text key stands twice. -/
theorem lookupText_eq_of_perm (h : entries.Perm entries') (hnodup : (textKeys entries).Nodup) :
    lookupText key entries = lookupText key entries' := by
  refine Option.ext fun v => ?_
  rw [lookupText_eq_some_iff hnodup,
    lookupText_eq_some_iff ((textKeys_perm h).nodup_iff.mp hnodup), h.mem_iff]

end TextKeys

/-! ## Values up to the order of entries -/

/-- Two values are equal, or mappings with the same entries and no repeated text key. -/
inductive Reordered : Value → Value → Prop where
  /-- Equal values. -/
  | refl (v : Value) : Reordered v v
  /-- Mappings in another order. -/
  | map {entries entries' : List (Scalar × Value)} :
      entries.Perm entries' → (textKeys entries).Nodup → Reordered (.map entries) (.map entries')

/-- The references of a mapping are those of its entries. -/
theorem mem_referenceTextsOfEntries {pointer : String} {entries : List (Scalar × Value)} :
    pointer ∈ referenceTextsOfEntries entries
      ↔ ∃ entry ∈ entries, pointer ∈ entryReference entry.1 entry.2 ++ entry.2.referenceTexts := by
  induction entries with
  | nil => simp [referenceTextsOfEntries]
  | cons entry rest ih =>
      rw [referenceTextsOfEntries, List.mem_append, ih]
      simp only [List.mem_cons, exists_eq_or_imp]

namespace Reordered

variable {v w : Value}

/-- The same stands under each key. -/
theorem get?_eq (h : Reordered v w) (key : String) : v.get? key = w.get? key := by
  cases h with
  | refl => rfl
  | map hperm hnodup => exact lookupText_eq_of_perm hperm hnodup

/-- Both are the same reference, or none. -/
theorem reference?_eq (h : Reordered v w) : v.reference? = w.reference? := by
  rw [reference?, reference?, h.get?_eq]

/-- One step leads to the same value. -/
theorem step?_eq (h : Reordered v w) (step : String) : v.step? step = w.step? step := by
  cases h with
  | refl => rfl
  | map hperm hnodup => exact lookupText_eq_of_perm hperm hnodup

/-- Steps lead to values that are equal up to order. -/
theorem walk? (h : Reordered v w) (steps : List String) :
    Option.Rel Reordered (v.walk? steps) (w.walk? steps) := by
  cases steps with
  | nil => exact .some h
  | cons step rest =>
      rw [walk?_cons, walk?_cons, h.step?_eq]
      cases (w.step? step).bind fun next => next.walk? rest with
      | none => exact .none
      | some target => exact .some (.refl target)

/-- Both are lists or neither is. -/
theorem isList_eq (h : Reordered v w) : v.isList = w.isList := by
  cases h <;> rfl

/-- Steps come to the same index of too many digits in both. -/
theorem overlongStep?_eq (h : Reordered v w) (steps : List String) :
    v.overlongStep? steps = w.overlongStep? steps := by
  cases steps with
  | nil => rfl
  | cons step rest => rw [overlongStep?, overlongStep?, h.isList_eq, h.step?_eq]

/-- The same references are written in both. -/
theorem mem_referenceTexts_iff (h : Reordered v w) (pointer : String) :
    pointer ∈ v.referenceTexts ↔ pointer ∈ w.referenceTexts := by
  cases h with
  | refl => rfl
  | map hperm _ =>
      rw [referenceTexts, referenceTexts, mem_referenceTextsOfEntries, mem_referenceTextsOfEntries]
      exact exists_congr fun entry => and_congr_left fun _ => hperm.mem_iff

end Reordered

/-! ## Documents up to the order of entries -/

/-- Every key at the root of two documents leads to values that are equal up to order, and the same
references are written in both. -/
structure RootReordered (document document' : Value) : Prop where
  /-- The first step from the root. -/
  step? : ∀ step, Option.Rel Reordered (document.step? step) (document'.step? step)
  /-- Both documents are lists or neither is. -/
  isList : document.isList = document'.isList
  /-- The references of the documents. -/
  mem_referenceTexts_iff :
    ∀ pointer, pointer ∈ document.referenceTexts ↔ pointer ∈ document'.referenceTexts

/-- A local pointer has a step. -/
theorem steps?_ne_nil (pointer : String) : Pointer.steps? pointer ≠ some [] := by
  rw [Pointer.steps?]
  split
  · rw [Ne, Option.some.injEq, List.map_eq_nil_iff]
    exact Chars.splitWhere_ne_nil _ _
  · nofun

namespace RootReordered

variable {document document' v w : Value}

/-- The entries under one key of a document may come in another order. -/
theorem of_entry {before after entries entries' : List (Scalar × Value)} {key : String}
    (hperm : entries.Perm entries') (hnodup : (textKeys entries).Nodup) :
    RootReordered (.map (before ++ (.text key, .map entries) :: after))
      (.map (before ++ (.text key, .map entries') :: after)) := by
  constructor
  · intro step
    simp only [Value.step?, lookupText]
    induction before with
    | nil =>
        rw [List.nil_append, List.nil_append, List.lookup_cons, List.lookup_cons]
        cases Scalar.text step == Scalar.text key with
        | true => exact .some (.map hperm hnodup)
        | false =>
            cases after.lookup (Scalar.text step) with
            | none => exact .none
            | some target => exact .some (.refl target)
    | cons entry before ih =>
        rw [List.cons_append, List.cons_append, List.lookup_cons, List.lookup_cons]
        cases Scalar.text step == entry.1 with
        | true => exact .some (.refl _)
        | false => exact ih
  · rfl
  · intro pointer
    simp only [referenceTexts, mem_referenceTextsOfEntries, List.mem_append, List.mem_cons, or_and_right,
      exists_or, exists_eq_left]
    have hinner := (Reordered.map hperm hnodup).mem_referenceTexts_iff pointer
    simp only [referenceTexts, mem_referenceTextsOfEntries, List.mem_append] at hinner
    rw [hinner]
    simp [entryReference, text?]

/-- **A pointer leads to values that are equal up to order**, or fails alike. -/
theorem resolve (h : RootReordered document document') (pointer : String) :
    SameOutcome Reordered (Pointer.resolve document pointer) (Pointer.resolve document' pointer) := by
  unfold Pointer.resolve
  cases hsteps : Pointer.steps? pointer with
  | none => exact .error _
  | some steps =>
      cases steps with
      | nil => exact absurd hsteps (steps?_ne_nil pointer)
      | cons step rest =>
          -- beyond the root both walks are in values that are equal up to order
          have hstep := h.step? step
          have hlost : Pointer.lost document pointer (step :: rest) =
              Pointer.lost document' pointer (step :: rest) := by
            rw [Pointer.lost, Pointer.lost, overlongStep?, overlongStep?, h.isList]
            generalize document.step? step = next at hstep ⊢
            generalize document'.step? step = next' at hstep ⊢
            cases hstep with
            | none => rfl
            | some hnext => rw [Option.bind_some, Option.bind_some, hnext.overlongStep?_eq]
          have hwalk : Option.Rel Reordered (document.walk? (step :: rest))
              (document'.walk? (step :: rest)) := by
            rw [walk?_cons, walk?_cons]
            generalize document.step? step = next at hstep ⊢
            generalize document'.step? step = next' at hstep ⊢
            cases hstep with
            | none => exact .none
            | some hnext => exact hnext.walk? rest
          dsimp only
          rw [hlost]
          generalize document.walk? (step :: rest) = target at hwalk ⊢
          generalize document'.walk? (step :: rest) = target' at hwalk ⊢
          cases hwalk with
          | none => exact .error _
          | some htarget => exact .ok htarget

/-- As many different references can be met. -/
theorem referenceCount_eq (h : RootReordered document document') {further further' : List String}
    (hfurther : ∀ pointer, pointer ∈ further ↔ pointer ∈ further') :
    document.referenceCount further = document'.referenceCount further' := by
  refine distinctCount_congr fun pointer => ?_
  rw [List.mem_append, List.mem_append, h.mem_referenceTexts_iff, hfurther]

/-- References are followed to values that are equal up to order, with every bound. -/
theorem followFrom (h : RootReordered document document') (bound : Nat) (chain : List String)
    (hvalue : Reordered v w) :
    SameOutcome Reordered (document.followFrom bound chain v) (document'.followFrom bound chain w) := by
  induction bound generalizing chain v w with
  | zero =>
      unfold Value.followFrom
      rw [hvalue.reference?_eq]
      cases w.reference? with
      | none => exact .ok hvalue
      | some pointer =>
          dsimp only
          split
          · exact .error _
          · exact .error _
  | succ bound ih =>
      unfold Value.followFrom
      rw [hvalue.reference?_eq]
      cases w.reference? with
      | none => exact .ok hvalue
      | some pointer =>
          dsimp only
          split
          · exact .error _
          · have htarget := h.resolve pointer
            generalize Pointer.resolve document pointer = target at htarget ⊢
            generalize Pointer.resolve document' pointer = target' at htarget ⊢
            cases htarget with
            | ok hnext => exact ih _ hnext
            | error e => exact .error e

/-- **References are followed to values that are equal up to order**, or fail alike. -/
theorem follow (h : RootReordered document document') (hvalue : Reordered v w) :
    SameOutcome Reordered (document.follow v) (document'.follow w) := by
  rw [Value.follow, Value.follow, h.referenceCount_eq hvalue.mem_referenceTexts_iff]
  exact h.followFrom _ [] hvalue

end RootReordered

end Value

end ServiceBindings
