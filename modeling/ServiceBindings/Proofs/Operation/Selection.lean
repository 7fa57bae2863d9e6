import Mathlib.Data.List.Infix
import Mathlib.Data.String.Basic
import ServiceBindings.Proofs.Operation.Members
import ServiceBindings.Proofs.Operation.Reordering

/-! # Which operations are selected

A selection selects paths (`Selection.Selects`), and with a path all operations that the document declares
for it (`Value.DeclaresOperation`). The operations come in the order of their paths, and for one path in the
order in which it declares its methods (`Value.Precedes`).

**The bindings are those of the selected operations** (`bindingsOf_selected`): one pair for each of them, in
this order. Neither the order of the paths in the document nor the paths that are not selected have an
influence on a pair. -/

namespace ServiceBindings

/-! ## Lists -/

section Lists

variable {α β κ ν : Type}

/-- Where no key stands twice, the value under a key is that of its entry. -/
theorem lookup_eq_some_iff_mem [BEq κ] [LawfulBEq κ] {entries : List (κ × ν)} {key : κ} {value : ν}
    (h : (entries.map Prod.fst).Nodup) : entries.lookup key = some value ↔ (key, value) ∈ entries := by
  induction entries with
  | nil => simp
  | cons entry rest ih =>
      obtain ⟨k, w⟩ := entry
      rw [List.map_cons, List.nodup_cons] at h
      by_cases hk : key = k
      · -- the key is not among those of the rest, so the entry in front is the one
        subst hk
        have hnew : (key, value) ∉ rest := fun hmem => h.1 (List.mem_map.mpr ⟨_, hmem, rfl⟩)
        simp [hnew, eq_comm]
      · have hne : (key == k) = false := by simpa using hk
        have hother : (key, value) ≠ (k, w) := fun heq => hk (Prod.mk.inj heq).1
        rw [List.lookup_cons, hne, List.mem_cons, or_iff_right hother]
        exact ih h.2

/-- A filter in front of a `flatMap` whose results carry what is filtered for. -/
theorem flatMap_filter_of_forall {f : α → List β} {keep : α → Bool} {keep' : β → Bool} {l : List α}
    (h : ∀ a ∈ l, ∀ b ∈ f a, keep' b = keep a) :
    (l.filter keep).flatMap f = (l.flatMap f).filter keep' := by
  induction l with
  | nil => rfl
  | cons a rest ih =>
      have hrest := ih fun a ha => h a (List.mem_cons_of_mem _ ha)
      rw [List.flatMap_cons, List.filter_append, ← hrest, List.filter_cons]
      have hhead := h a List.mem_cons_self
      cases ha : keep a with
      | true =>
          have hall : (f a).filter keep' = f a := List.filter_eq_self.mpr fun b hb => by rw [hhead b hb, ha]
          rw [hall, if_pos rfl, List.flatMap_cons]
      | false =>
          have hnone : (f a).filter keep' = [] := List.filter_eq_nil_iff.mpr fun b hb => by
            rw [hhead b hb, ha]
            exact Bool.false_ne_true
          rw [hnone, if_neg Bool.false_ne_true, List.nil_append]

/-- Computations that all succeed do so for a part of the inputs, with the results at the same places. -/
theorem mapM_filter_of_mapM_eq_ok {ε : Type} {f : α → Except ε β} {inputs : List α} {outputs : List β}
    (keep : α → Bool) (h : inputs.mapM f = .ok outputs) :
    (inputs.filter keep).mapM f
      = .ok (((inputs.zip outputs).filter fun pair => keep pair.1).map Prod.snd) := by
  induction inputs generalizing outputs with
  | nil => rfl
  | cons a rest ih =>
      rw [List.mapM_cons, bind_eq_ok_iff] at h
      obtain ⟨b, hb, h⟩ := h
      rw [bind_eq_ok_iff] at h
      obtain ⟨bs, hbs, h⟩ := h
      cases h
      rw [List.filter_cons, List.zip_cons_cons, List.filter_cons]
      cases keep a with
      | true =>
          rw [if_pos rfl, if_pos rfl, List.mapM_cons, hb, ih hbs]
          rfl
      | false =>
          rw [if_neg Bool.false_ne_true, if_neg Bool.false_ne_true]
          exact ih hbs

end Lists

/-! ## Paths in order -/

section Paths

variable (paths : List String)

/-- Paths that are sorted are in order. -/
theorem pairwise_le_mergeSort : (paths.mergeSort fun a b => decide (a ≤ b)).Pairwise (· ≤ ·) := by
  have hsorted : (paths.mergeSort fun a b => decide (a ≤ b)).Pairwise fun a b => decide (a ≤ b) = true :=
    List.pairwise_mergeSort
      (fun a b c hab hbc => by simpa using (of_decide_eq_true hab).trans (of_decide_eq_true hbc))
      (fun a b => by simpa using le_total a b) paths
  exact hsorted.imp of_decide_eq_true

variable {paths}

/-- The order in which paths come does not matter once they are sorted. -/
theorem mergeSort_eq_of_perm {paths' : List String} (h : paths.Perm paths') :
    (paths.mergeSort fun a b => decide (a ≤ b)) = paths'.mergeSort fun a b => decide (a ≤ b) := by
  refine List.Perm.eq_of_pairwise (fun a b _ _ hab hba => le_antisymm hab hba) (pairwise_le_mergeSort paths)
    (pairwise_le_mergeSort paths') ?_
  exact (List.mergeSort_perm _ _).trans (h.trans (List.mergeSort_perm _ _).symm)

end Paths

namespace Selection

/-- A path is selected: it is one of the included ones, where there are any, and none of the excluded
ones. -/
def Selects (selection : Selection) (path : String) : Prop :=
  (selection.includePaths = [] ∨ path ∈ selection.includePaths) ∧ path ∉ selection.excludePaths

instance (selection : Selection) (path : String) : Decidable (selection.Selects path) :=
  inferInstanceAs (Decidable (_ ∧ _))

/-- The selection that derives bindings in the same way, from all paths. -/
def unfiltered (selection : Selection) : Selection :=
  { selection with includePaths := [], excludePaths := [] }

variable (selection : Selection) (paths : List String)

/-- The selected paths are those that the selection selects, sorted. -/
theorem selectPaths_eq : selectPaths selection.includePaths selection.excludePaths paths
    = (paths.mergeSort fun a b => decide (a ≤ b)).filter fun path => selection.Selects path := by
  refine List.filter_congr fun path _ => ?_
  rw [Bool.eq_iff_iff, decide_eq_true_iff]
  simp [Selects]

/-- Without filters all paths are selected. -/
theorem selectPaths_unfiltered :
    selectPaths selection.unfiltered.includePaths selection.unfiltered.excludePaths paths
      = paths.mergeSort fun a b => decide (a ≤ b) := by
  rw [selectPaths_eq]
  exact List.filter_eq_self.mpr fun path _ => by simp [Selects, unfiltered]

end Selection

/-! ## The operations of a document -/

namespace Value

/-- A document declares an operation: its path is a mapping, and the method one of HTTP that leads to a
mapping there. -/
def DeclaresOperation (document : Value) (operation : Operation) : Prop :=
  ∃ paths item, document.get? "paths" = some (.map paths) ∧ (.text operation.path, .map item) ∈ paths ∧
    (.text operation.method, .map operation.entries) ∈ item ∧ operation.method ∈ httpMethods

/-- An operation comes before another one: its path does in the order of characters, or they have one path,
which declares its method first. -/
def Precedes (document : Value) (operation later : Operation) : Prop :=
  operation.path < later.path ∨ operation.path = later.path ∧
    ∃ paths item, document.get? "paths" = some (.map paths) ∧ (.text operation.path, .map item) ∈ paths ∧
      [operation.method, later.method].Sublist (textKeys item)

/-- No path of a document stands twice, and none declares a key twice. So it is in every document whose
mappings are built from pairs (`nodup_textKeys_mapping`). -/
def HasDistinctPaths (document : Value) : Prop :=
  ∀ paths, document.get? "paths" = some (.map paths) →
    (textKeys paths).Nodup ∧ ∀ path item, (.text path, .map item) ∈ paths → (textKeys item).Nodup

end Value

open Value (textKeys DeclaresOperation Precedes HasDistinctPaths RootReordered)

section Items

variable {path : String} {item : List (Scalar × Value)} {operation : Operation}

/-- The operations at a path are the entries of its methods. -/
theorem mem_operationsAt : operation ∈ operationsAt path item ↔ operation.path = path ∧
    (.text operation.method, .map operation.entries) ∈ item ∧ operation.method ∈ httpMethods := by
  rw [operationsAt, List.mem_filterMap]
  constructor
  · rintro ⟨⟨key, v⟩, hmem, hop⟩
    split at hop
    · next method entries heq =>
        cases heq
        split at hop
        · next hmethod =>
            cases hop
            exact ⟨rfl, hmem, by simpa using hmethod⟩
        · cases hop
    · cases hop
  · rintro ⟨rfl, hmem, hmethod⟩
    refine ⟨_, hmem, ?_⟩
    dsimp only
    rw [if_pos (by simpa using hmethod)]

/-- The methods of the operations at a path are some of its keys, in their order. -/
theorem map_method_operationsAt_sublist :
    ((operationsAt path item).map Operation.method).Sublist (textKeys item) := by
  induction item with
  | nil => exact .slnil
  | cons entry rest ih =>
      rw [operationsAt, List.filterMap_cons, Value.textKeys_cons]
      split
      · exact ih.trans (List.sublist_append_right _ _)
      · next op hop =>
          split at hop
          · next method entries =>
              split at hop
              · cases hop
                exact ih.cons_cons method
              · cases hop
          · cases hop

variable {paths paths' : List (Scalar × Value)}

/-- The paths that are mappings are entries of the paths. -/
theorem mem_pathItems : (path, item) ∈ pathItems paths ↔ (.text path, .map item) ∈ paths := by
  rw [pathItems, List.mem_filterMap]
  constructor
  · rintro ⟨⟨key, v⟩, hmem, hitem⟩
    split at hitem
    · next heq =>
        cases heq
        cases hitem
        exact hmem
    · cases hitem
  · intro hmem
    exact ⟨_, hmem, rfl⟩

/-- The paths that are mappings are some of the paths. -/
theorem map_fst_pathItems_sublist : ((pathItems paths).map Prod.fst).Sublist (textKeys paths) := by
  induction paths with
  | nil => exact .slnil
  | cons entry rest ih =>
      rw [pathItems, List.filterMap_cons, Value.textKeys_cons]
      split
      · exact ih.trans (List.sublist_append_right _ _)
      · next pair hpair =>
          split at hpair
          · next path item =>
              cases hpair
              exact ih.cons_cons path
          · cases hpair

/-- Without repeated paths, a path leads to its own entry. -/
theorem lookup_pathItems_eq_some_iff (h : (textKeys paths).Nodup) :
    (pathItems paths).lookup path = some item ↔ (.text path, .map item) ∈ paths := by
  rw [lookup_eq_some_iff_mem (h.sublist map_fst_pathItems_sublist), mem_pathItems]

/-- **The operations do not depend on the order of the paths.** -/
theorem operationsOf_eq_of_perm (includePaths excludePaths : List String) (h : paths.Perm paths')
    (hnodup : (textKeys paths).Nodup) :
    operationsOf includePaths excludePaths (pathItems paths)
      = operationsOf includePaths excludePaths (pathItems paths') := by
  have hitems : (pathItems paths).Perm (pathItems paths') := h.filterMap _
  have hlookup : ∀ path, (pathItems paths).lookup path = (pathItems paths').lookup path := by
    intro path
    refine Option.ext fun item => ?_
    rw [lookup_pathItems_eq_some_iff hnodup,
      lookup_pathItems_eq_some_iff ((Value.textKeys_perm h).nodup_iff.mp hnodup), h.mem_iff]
  simp only [operationsOf, hlookup, selectPaths, mergeSort_eq_of_perm (hitems.map Prod.fst)]

end Items

namespace Selection

variable {selection : Selection} {document : Value} {paths : List (Scalar × Value)}

/-- The selected operations of a document with paths. -/
theorem operations_eq (h : document.get? "paths" = some (.map paths)) :
    selection.operations document
      = ((((pathItems paths).map Prod.fst).mergeSort fun a b => decide (a ≤ b)).filter
          fun path => selection.Selects path).flatMap fun path =>
            operationsAt path (((pathItems paths).lookup path).getD []) := by
  rw [operations, h]
  dsimp only
  rw [operationsOf, selectPaths_eq]

/-- Without paths there are no operations. -/
theorem operations_eq_nil (h : ¬ ∃ paths, document.get? "paths" = some (.map paths)) :
    selection.operations document = [] := by
  rw [operations]
  split
  · next hsome => exact absurd ⟨_, hsome⟩ h
  · rfl

/-- **The selected operations** are those that the document declares at selected paths. -/
theorem mem_operations (hdistinct : HasDistinctPaths document) {operation : Operation} :
    operation ∈ selection.operations document
      ↔ DeclaresOperation document operation ∧ selection.Selects operation.path := by
  by_cases hpaths : ∃ paths, document.get? "paths" = some (.map paths)
  · obtain ⟨paths, hpaths⟩ := hpaths
    have hnodup := (hdistinct paths hpaths).1
    rw [operations_eq hpaths, List.mem_flatMap]
    constructor
    · rintro ⟨path, hpath, hop⟩
      rw [List.mem_filter, List.mem_mergeSort, decide_eq_true_eq] at hpath
      obtain ⟨hpath, hselects⟩ := hpath
      obtain ⟨⟨path, item⟩, hitem, rfl⟩ := List.mem_map.mp hpath
      rw [mem_pathItems] at hitem
      rw [(lookup_pathItems_eq_some_iff hnodup).mpr hitem, Option.getD_some, mem_operationsAt] at hop
      obtain ⟨rfl, hmem, hmethod⟩ := hop
      exact ⟨⟨paths, item, hpaths, hitem, hmem, hmethod⟩, hselects⟩
    · rintro ⟨⟨paths', item, hpaths', hitem, hmem, hmethod⟩, hselects⟩
      cases hpaths.symm.trans hpaths'
      refine ⟨operation.path, ?_, ?_⟩
      · rw [List.mem_filter, List.mem_mergeSort, decide_eq_true_eq]
        exact ⟨List.mem_map.mpr ⟨_, mem_pathItems.mpr hitem, rfl⟩, hselects⟩
      · rw [(lookup_pathItems_eq_some_iff hnodup).mpr hitem, Option.getD_some, mem_operationsAt]
        exact ⟨rfl, hmem, hmethod⟩
  · rw [operations_eq_nil hpaths]
    constructor
    · nofun
    · rintro ⟨⟨paths, -, hsome, -⟩, -⟩
      exact absurd ⟨paths, hsome⟩ hpaths

/-- **The selected operations are in order.** -/
theorem pairwise_precedes_operations (hdistinct : HasDistinctPaths document) :
    (selection.operations document).Pairwise (Precedes document) := by
  by_cases hpaths : ∃ paths, document.get? "paths" = some (.map paths)
  case neg => rw [operations_eq_nil hpaths]; exact .nil
  case pos =>
    obtain ⟨paths, hpaths⟩ := hpaths
    obtain ⟨hnodup, -⟩ := hdistinct paths hpaths
    rw [operations_eq hpaths, List.pairwise_flatMap]
    constructor
    · intro path hpath
      rw [List.mem_filter, List.mem_mergeSort] at hpath
      obtain ⟨⟨path, item⟩, hitem, rfl⟩ := List.mem_map.mp hpath.1
      rw [mem_pathItems] at hitem
      rw [(lookup_pathItems_eq_some_iff hnodup).mpr hitem, Option.getD_some]
      -- two operations in this order have methods that are keys in this order
      refine List.pairwise_of_forall_sublist fun {a b} hsub => ?_
      have ha := (mem_operationsAt.mp (hsub.subset List.mem_cons_self)).1
      have hb := (mem_operationsAt.mp (hsub.subset (List.mem_cons_of_mem _ List.mem_cons_self))).1
      have hkeys := (hsub.map Operation.method).trans map_method_operationsAt_sublist
      exact Or.inr ⟨ha.trans hb.symm, paths, item, hpaths, ha ▸ hitem, hkeys⟩
    · have hdifferent : (((pathItems paths).map Prod.fst).mergeSort
          fun a b => decide (a ≤ b)).Nodup :=
        (List.mergeSort_perm _ _).nodup_iff.mpr (hnodup.sublist map_fst_pathItems_sublist)
      have hstrict := (pairwise_le_mergeSort ((pathItems paths).map Prod.fst)).imp₂
        (fun a b hle hne => lt_of_le_of_ne hle hne) hdifferent
      refine (hstrict.sublist List.filter_sublist).imp ?_
      intro path path' hlt a ha b hb
      refine Or.inl ?_
      rw [(mem_operationsAt.mp ha).1, (mem_operationsAt.mp hb).1]
      exact hlt

end Selection

/-- No operation comes before itself or another one with its path and method. -/
theorem Value.Precedes.ne {document : Value} (hdistinct : HasDistinctPaths document)
    {operation later : Operation} (h : Precedes document operation later) :
    (operation.path, operation.method) ≠ (later.path, later.method) := by
  intro heq
  obtain ⟨hpath, hmethod⟩ := Prod.mk.inj heq
  rcases h with hlt | ⟨-, paths, item, hpaths, hitem, hkeys⟩
  · exact absurd hpath hlt.ne
  · rw [hmethod] at hkeys
    exact List.nodup_iff_sublist.mp ((hdistinct paths hpaths).2 _ _ hitem) _ hkeys

namespace Selection

variable {selection : Selection} {document : Value}

/-- **The selected operations are a part of all operations.** -/
theorem operations_eq_filter : selection.operations document
    = (selection.unfiltered.operations document).filter fun operation =>
        selection.Selects operation.path := by
  rw [operations, operations]
  split
  · rw [operationsOf, operationsOf, selectPaths_unfiltered, selectPaths_eq]
    refine flatMap_filter_of_forall fun path _ operation hop => ?_
    rw [(mem_operationsAt.mp hop).1]
  · rfl

end Selection

/-! ## Bindings of the selected operations -/

/-- A service function and a namespace of types show the same operation. -/
structure Aligned (f : ServiceFunction) (types : TypeScope) : Prop where
  /-- The namespaces agree. -/
  scope : types.name = f.scope
  /-- The paths agree. -/
  path : types.path = f.path
  /-- The methods agree. -/
  method : types.method = f.method
  /-- The summaries agree. -/
  summary : types.summary = f.summary
  /-- The tags agree. -/
  tags : types.tags = f.tags

variable {selection : Selection} {document : Value}

/-- The first entry with paths holds the paths of a document. -/
theorem get?_paths_of_notMem {before : List (Scalar × Value)} (hbefore : .text "paths" ∉ before.map Prod.fst)
    (v : Value) (after : List (Scalar × Value)) :
    (Value.map (before ++ (.text "paths", v) :: after)).get? "paths" = some v := by
  refine List.lookup_eq_some_iff.mpr ⟨before, after, rfl, fun pair hpair => ?_⟩
  rw [bne_iff_ne]
  intro heq
  exact hbefore (List.mem_map.mpr ⟨pair, hpair, heq.symm⟩)

/-- The bindings of a document do not depend on the order of its paths. -/
theorem bindingsOf_eq_of_perm {before after paths paths' : List (Scalar × Value)}
    (hbefore : .text "paths" ∉ before.map Prod.fst) (hperm : paths.Perm paths')
    (hnodup : (textKeys paths).Nodup) :
    bindingsOf selection (.map (before ++ (.text "paths", .map paths') :: after))
      = bindingsOf selection (.map (before ++ (.text "paths", .map paths) :: after)) := by
  have hroot : RootReordered (.map (before ++ (.text "paths", .map paths) :: after))
      (.map (before ++ (.text "paths", .map paths') :: after)) := .of_entry hperm hnodup
  have hbuild : OperationContext.build
        ⟨.map (before ++ (.text "paths", .map paths) :: after), selection.base, selection.blobPaths⟩
      = OperationContext.build
        ⟨.map (before ++ (.text "paths", .map paths') :: after), selection.base, selection.blobPaths⟩ :=
    funext fun operation => OperationContext.build_congr hroot operation
  rw [bindingsOf, bindingsOf, get?_paths_of_notMem hbefore, get?_paths_of_notMem hbefore]
  dsimp only
  rw [operationsOf_eq_of_perm _ _ hperm hnodup, hbuild]

/-- **The bindings are those of the selected operations.** Service functions and namespaces are aligned, and
there is one pair for each operation that the document declares at a selected path, in order. In a document
with its paths in another order the outcome is the same. Where there are bindings of all operations, there
are bindings of every selection, and these are the pairs of the selected operations among them. -/
theorem bindingsOf_selected (selection : Selection) (document : Value)
    (hdistinct : HasDistinctPaths document) :
    (∀ bindings, bindingsOf selection document = .ok bindings →
      List.Forall₂ Aligned bindings.functions bindings.scopes ∧
      List.Forall₂ (fun operation pair => (selection.context document).build operation = .ok pair ∧
          pair.1.path = Naming.stripBase selection.base operation.path ∧
          pair.1.method = operation.method)
        (selection.operations document) bindings.operations ∧
      (∀ operation, operation ∈ selection.operations document ↔
        DeclaresOperation document operation ∧ selection.Selects operation.path) ∧
      (selection.operations document).Pairwise (Precedes document) ∧
      ((selection.operations document).map fun operation =>
        (operation.path, operation.method)).Nodup) ∧
    (∀ before paths paths' after, document = .map (before ++ (.text "paths", .map paths) :: after) →
      .text "paths" ∉ before.map Prod.fst → paths.Perm paths' →
      bindingsOf selection (.map (before ++ (.text "paths", .map paths') :: after))
        = bindingsOf selection document) ∧
    (∀ all, bindingsOf selection.unfiltered document = .ok all →
      bindingsOf selection document = .ok
        ⟨(((selection.unfiltered.operations document).zip all.operations).filter fun pair =>
          selection.Selects pair.1.path).map Prod.snd⟩) := by
  refine ⟨fun bindings h => ?_, ?_, fun all h => ?_⟩
  · have hbuilds := forall₂_of_mapM_eq_ok (bindingsOf_eq_ok_iff.mp h).2
    have hpairwise : (selection.operations document).Pairwise (Precedes document) :=
      Selection.pairwise_precedes_operations hdistinct
    refine ⟨?_, hbuilds.imp fun operation pair hbuild => ?_, fun operation =>
      Selection.mem_operations hdistinct, hpairwise, ?_⟩
    · rw [Bindings.functions, Bindings.scopes, List.forall₂_map_left_iff, List.forall₂_map_right_iff,
        List.forall₂_same]
      intro pair hpair
      obtain ⟨operation, -, hbuild⟩ := exists_mem_left_of_forall₂ hbuilds hpair
      have hheaded := OperationContext.headed_of_build hbuild
      exact ⟨hheaded.name_eq, hheaded.types_path_eq, hheaded.types_method_eq, hheaded.summary_eq,
        hheaded.tags_eq⟩
    · have hheaded := OperationContext.headed_of_build hbuild
      exact ⟨hbuild, hheaded.path_eq, hheaded.method_eq⟩
    · rw [List.Nodup, List.pairwise_map]
      exact hpairwise.imp fun hprecedes => hprecedes.ne hdistinct
  · rintro before paths paths' after rfl hbefore hperm
    exact bindingsOf_eq_of_perm hbefore hperm (hdistinct paths (get?_paths_of_notMem hbefore _ _)).1
  -- a part of the operations can be built where all can
  · obtain ⟨hpaths, hbuilds⟩ := bindingsOf_eq_ok_iff.mp h
    refine bindingsOf_eq_ok_iff.mpr ⟨hpaths, ?_⟩
    rw [Selection.operations_eq_filter]
    exact mapM_filter_of_mapM_eq_ok _ hbuilds

/-! ## A document with two paths -/

/-- An operation without parameters, body and response. -/
def plainOperation (summary : String) : Value := .map [(.text "summary", .text summary)]

/-- The paths of pets and of orders, the former with two methods. -/
def storePaths : List (Scalar × Value) :=
  [(.text "/pets", .map [(.text "post", plainOperation "Add"), (.text "get", plainOperation "List")]),
    (.text "/orders", .map [(.text "get", plainOperation "Orders")])]

/-- A document with given paths. -/
def storeDocument (paths : List (Scalar × Value)) : Value := .map [(.text "paths", .map paths)]

theorem hasDistinctPaths_store : HasDistinctPaths (storeDocument storePaths) := by
  intro paths hpaths
  cases hpaths
  refine ⟨by decide, fun path item hmem => ?_⟩
  simp only [storePaths, List.mem_cons, List.not_mem_nil, or_false, Prod.mk.injEq] at hmem
  rcases hmem with ⟨-, heq⟩ | ⟨-, heq⟩ <;> cases heq <;> decide

/-- The operations of the document, in order. -/
def storeOperations : List Operation :=
  [⟨"/orders", "get", [(.text "summary", .text "Orders")]⟩,
    ⟨"/pets", "post", [(.text "summary", .text "Add")]⟩,
    ⟨"/pets", "get", [(.text "summary", .text "List")]⟩]

theorem operations_store : Selection.operations {} (storeDocument storePaths) = storeOperations := by
  rw [Selection.operations_eq rfl]
  have hsorted : (((pathItems storePaths).map Prod.fst).mergeSort fun a b => decide (a ≤ b))
      = ["/orders", "/pets"] := by
    simp [storePaths, pathItems, List.mergeSort, List.MergeSort.Internal.splitInTwo]
  rw [hsorted]
  rfl

/-- Without the orders there are the two functions for pets, also if the paths come in another order. -/
theorem bindingsOf_selected_pets : HasDistinctPaths (storeDocument storePaths) ∧
    ∃ bindings, bindingsOf { excludePaths := ["/orders"] } (storeDocument storePaths.reverse) = .ok bindings ∧
      bindings.functions.map ServiceFunction.name = ["postPets", "getPets"] := by
  obtain ⟨-, hreordered, hpart⟩ :=
    bindingsOf_selected { excludePaths := ["/orders"] } (storeDocument storePaths) hasDistinctPaths_store
  obtain ⟨pairs, hpairs, hnames⟩ : ∃ pairs,
      storeOperations.mapM (Selection.context {} (storeDocument storePaths)).build = .ok pairs ∧
      (((storeOperations.zip pairs).filter fun pair => pair.1.path ∉ ["/orders"]).map Prod.snd).map
        (fun pair => pair.1.name) = ["postPets", "getPets"] := ⟨_, rfl, by decide⟩
  have hall : bindingsOf {} (storeDocument storePaths) = .ok ⟨pairs⟩ :=
    bindingsOf_eq_ok_iff.mpr ⟨⟨storePaths, rfl⟩, operations_store ▸ hpairs⟩
  have hpets := hpart ⟨pairs⟩ hall
  rw [← hreordered [] storePaths storePaths.reverse [] rfl List.not_mem_nil
    (List.reverse_perm storePaths).symm] at hpets
  refine ⟨hasDistinctPaths_store, _, hpets, ?_⟩
  rw [← hnames, ← operations_store]
  simp [Bindings.functions, Selection.Selects, Selection.unfiltered]

end ServiceBindings
