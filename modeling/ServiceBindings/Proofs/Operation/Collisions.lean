import Mathlib.Data.List.Nodup
import ServiceBindings.Proofs.Operation.Selection

/-! # Collisions of namespaces

An operation that is not the first with its namespace **repeats** it (`ServiceFunction.Repeats`). The walk
over the operations keeps the first holder of every namespace so far (`HoldsFirsts`), and from this it
follows that each repetition is reported, in order, with the first holder
(`exists_positions_of_collisionsAfter`).

Names and namespaces are built from the same path and method: the method is the beginning of a name, and with
a capital letter of a namespace behind its mark. As no method begins another one, **two operations have one
name exactly when they have one namespace** (`ServiceFunction.name_eq_iff_scope_eq`). So a document has no
collisions exactly when no name, or equally no namespace, stands twice (`collisions_exact`). -/

namespace ServiceBindings

namespace Naming

/-- A text that begins with one of two words, neither of which begins the other, determines the word. -/
theorem eq_of_append_eq_append {words : List (List Char)}
    (hfree : ∀ a ∈ words, ∀ b ∈ words, a <+: b → a = b) {a b s t : List Char} (ha : a ∈ words)
    (hb : b ∈ words) (h : a ++ s = b ++ t) : a = b ∧ s = t := by
  have hword : a = b := by
    rcases List.prefix_or_prefix_of_prefix ⟨s, h⟩ (List.prefix_append b t) with hab | hba
    · exact hfree a ha b hb hab
    · exact (hfree b hb a ha hba).symm
  subst hword
  exact ⟨rfl, List.append_cancel_left h⟩

/-- No method begins another one. -/
theorem eq_of_isPrefix_httpMethods : ∀ a ∈ httpMethods.map String.toList,
    ∀ b ∈ httpMethods.map String.toList, a <+: b → a = b := by decide

/-- No method with a capital letter begins another one. -/
theorem eq_of_isPrefix_pascal_httpMethods : ∀ a ∈ httpMethods.map fun m => (pascal m).toList,
    ∀ b ∈ httpMethods.map fun m => (pascal m).toList, a <+: b → a = b := by decide

/-- Different methods are different with a capital letter. -/
theorem eq_of_pascal_eq : ∀ m ∈ httpMethods, ∀ n ∈ httpMethods,
    (pascal m).toList = (pascal n).toList → m = n := by decide

variable {m n path path' : String}

/-- The name of a function determines method and path, as far as they count. -/
theorem functionName_eq_iff (hm : m ∈ httpMethods) (hn : n ∈ httpMethods) :
    functionName m path = functionName n path'
      ↔ m = n ∧ dropPlaceholder (pascal path) = dropPlaceholder (pascal path') := by
  constructor
  · intro h
    have hlist : m.toList ++ (dropPlaceholder (pascal path)).toList
        = n.toList ++ (dropPlaceholder (pascal path')).toList := by
      rw [← String.toList_append, ← String.toList_append]
      exact congrArg String.toList h
    obtain ⟨hmethod, hrest⟩ := eq_of_append_eq_append eq_of_isPrefix_httpMethods
      (List.mem_map_of_mem hm) (List.mem_map_of_mem hn) hlist
    exact ⟨String.toList_inj.mp hmethod, String.toList_inj.mp hrest⟩
  · rintro ⟨rfl, hrest⟩
    rw [functionName, functionName, hrest]

/-- The name of a namespace determines method and path, as far as they count. -/
theorem scopeName_eq_iff (hm : m ∈ httpMethods) (hn : n ∈ httpMethods) :
    scopeName m path = scopeName n path'
      ↔ m = n ∧ dropPlaceholder (pascal path) = dropPlaceholder (pascal path') := by
  constructor
  · intro h
    have hlist : (pascal m).toList ++ (dropPlaceholder (pascal path)).toList
        = (pascal n).toList ++ (dropPlaceholder (pascal path')).toList := by
      have hwhole := congrArg String.toList h
      simp only [scopeName, String.toList_append, List.append_assoc] at hwhole
      exact (List.append_right_inj _).mp hwhole
    obtain ⟨hmethod, hrest⟩ := eq_of_append_eq_append eq_of_isPrefix_pascal_httpMethods
      (List.mem_map.mpr ⟨m, hm, rfl⟩) (List.mem_map.mpr ⟨n, hn, rfl⟩) hlist
    exact ⟨eq_of_pascal_eq m hm n hn hmethod, String.toList_inj.mp hrest⟩
  · rintro ⟨rfl, hrest⟩
    rw [scopeName, scopeName, hrest]

end Naming

/-! ## Repeated namespaces -/

namespace ServiceFunction

/-- The operation at a place has the namespace of one before it. -/
def Repeats (functions : List ServiceFunction) (i : Nat) : Prop :=
  ∃ j f g, j < i ∧ functions[j]? = some f ∧ functions[i]? = some g ∧ f.scope = g.scope

/-- The first operation with a namespace. -/
def firstWith? (functions : List ServiceFunction) (scope : String) : Option ServiceFunction :=
  functions.find? fun f => f.scope == scope

/-- A collision reports the operation at a place, with the first operation that has its namespace. -/
def Reports (functions : List ServiceFunction) (i : Nat) (collision : Collision) : Prop :=
  functions[i]? = some collision.later ∧
    firstWith? functions collision.later.scope = some collision.first

variable {functions : List ServiceFunction}

/-- No namespace is repeated exactly when all are different. -/
theorem nodup_scope_iff :
    (functions.map ServiceFunction.scope).Nodup ↔ ∀ i, ¬ Repeats functions i := by
  rw [List.nodup_iff_getElem?_ne_getElem?]
  constructor
  · rintro hnodup i ⟨j, f, g, hlt, hf, hg, hscope⟩
    have hi : i < functions.length := (List.getElem?_eq_some_iff.mp hg).1
    refine hnodup j i hlt (by rwa [List.length_map]) ?_
    rw [List.getElem?_map, List.getElem?_map, hf, hg, Option.map_some, Option.map_some, hscope]
  · intro hnone j i hlt hi heq
    rw [List.length_map] at hi
    have hf := List.getElem?_eq_getElem (hlt.trans hi)
    have hg := List.getElem?_eq_getElem hi
    rw [List.getElem?_map, List.getElem?_map, hf, hg, Option.map_some, Option.map_some,
      Option.some.injEq] at heq
    exact hnone i ⟨j, _, _, hlt, hf, hg, heq⟩

/-- A place behind some operations repeats a namespace if one of these holds it. -/
theorem repeats_length_iff {done rest : List ServiceFunction} {f : ServiceFunction} :
    Repeats (done ++ f :: rest) done.length ↔ (firstWith? done f.scope).isSome := by
  rw [firstWith?, List.find?_isSome]
  constructor
  · rintro ⟨j, g, f', hlt, hg, hf', hscope⟩
    rw [List.getElem?_append_left hlt] at hg
    rw [List.getElem?_append_right (Nat.le_refl _), Nat.sub_self, List.getElem?_cons_zero,
      Option.some.injEq] at hf'
    exact ⟨g, List.mem_of_getElem? hg, by rw [hscope, ← hf', beq_self_eq_true]⟩
  · rintro ⟨g, hg, hscope⟩
    obtain ⟨j, hj⟩ := List.mem_iff_getElem?.mp hg
    have hlt : j < done.length := (List.getElem?_eq_some_iff.mp hj).1
    refine ⟨j, g, f, hlt, ?_, ?_, beq_iff_eq.mp hscope⟩
    · rw [List.getElem?_append_left hlt, hj]
    · rw [List.getElem?_append_right (Nat.le_refl _), Nat.sub_self, List.getElem?_cons_zero]

end ServiceFunction

open ServiceFunction

/-- Of the operations so far, the ones that are kept hold every namespace first. -/
def HoldsFirsts (kept done : List ServiceFunction) : Prop :=
  ∀ scope, firstWith? kept scope = firstWith? done scope

namespace HoldsFirsts

variable {kept done : List ServiceFunction} {f first : ServiceFunction}

/-- An operation that repeats a namespace is not kept. -/
theorem concat_of_some (h : HoldsFirsts kept done) (hfirst : firstWith? kept f.scope = some first) :
    HoldsFirsts kept (done ++ [f]) := by
  intro scope
  rw [firstWith?, firstWith?, List.find?_append, ← firstWith?, ← firstWith?, h scope]
  by_cases hscope : f.scope = scope
  · rw [← hscope, ← h f.scope, hfirst, Option.some_or]
  · have hother : [f].find? (fun g => g.scope == scope) = none := by simpa using hscope
    rw [hother, Option.or_none]

/-- An operation with a new namespace is kept. -/
theorem concat (h : HoldsFirsts kept done) (f : ServiceFunction) :
    HoldsFirsts (kept ++ [f]) (done ++ [f]) := by
  intro scope
  rw [firstWith?, firstWith?, List.find?_append, List.find?_append]
  exact congrArg (Option.or · _) (h scope)

end HoldsFirsts

/-- **The walk reports every repetition**, in order: the collisions are at the places behind the operations
so far that repeat a namespace. -/
theorem exists_positions_of_collisionsAfter {kept done : List ServiceFunction} (rest : List ServiceFunction)
    (h : HoldsFirsts kept done) :
    ∃ positions : List Nat, positions.Pairwise (· < ·) ∧
      (∀ i, i ∈ positions ↔ done.length ≤ i ∧ Repeats (done ++ rest) i) ∧
      List.Forall₂ (Reports (done ++ rest)) positions (collisionsAfter kept rest) := by
  induction rest generalizing kept done with
  | nil =>
      refine ⟨[], .nil, fun i => ⟨nofun, ?_⟩, .nil⟩
      rintro ⟨hle, j, f, g, -, -, hg, -⟩
      rw [List.append_nil] at hg
      exact absurd (List.getElem?_eq_some_iff.mp hg).1 (Nat.not_lt.mpr hle)
  | cons f rest ih =>
      have hlength : (done ++ [f]).length = done.length + 1 := List.length_append
      have hassoc : done ++ [f] ++ rest = done ++ f :: rest := List.append_cons done f rest ▸ rfl
      have hkept : kept.find? (fun g => g.scope == f.scope) = firstWith? done f.scope := h f.scope
      rw [collisionsAfter, hkept]
      cases hfirst : firstWith? done f.scope with
      | some first =>
          obtain ⟨positions, hsorted, hmem, hreports⟩ := ih (h.concat_of_some ((h _).trans hfirst))
          rw [hassoc, hlength] at hmem
          rw [hassoc] at hreports
          refine ⟨done.length :: positions, List.pairwise_cons.mpr ⟨fun i hi => ?_, hsorted⟩, fun i => ?_,
            .cons ⟨?_, ?_⟩ hreports⟩
          · exact ((hmem i).mp hi).1
          · have hhere : Repeats (done ++ f :: rest) done.length := by
              rw [repeats_length_iff, hfirst, Option.isSome_some]
            rw [List.mem_cons, hmem]
            constructor
            · rintro (rfl | ⟨hle, hrepeats⟩)
              · exact ⟨Nat.le_refl _, hhere⟩
              · exact ⟨Nat.le_of_succ_le hle, hrepeats⟩
            · rintro ⟨hle, hrepeats⟩
              rcases Nat.eq_or_lt_of_le hle with rfl | hlt
              · exact Or.inl rfl
              · exact Or.inr ⟨hlt, hrepeats⟩
          · rw [List.getElem?_append_right (Nat.le_refl _), Nat.sub_self, List.getElem?_cons_zero]
          · rw [firstWith?, List.find?_append, ← firstWith?, hfirst, Option.some_or]
      | none =>
          obtain ⟨positions, hsorted, hmem, hreports⟩ := ih (h.concat f)
          rw [hassoc, hlength] at hmem
          rw [hassoc] at hreports
          refine ⟨positions, hsorted, fun i => ?_, hreports⟩
          have hhere : ¬ Repeats (done ++ f :: rest) done.length := by
            rw [repeats_length_iff, hfirst]
            exact nofun
          rw [hmem]
          refine and_congr_left fun hrepeats => ⟨Nat.le_of_succ_le, fun hle => ?_⟩
          rcases Nat.eq_or_lt_of_le hle with rfl | hlt
          · exact absurd hrepeats hhere
          · exact hlt

/-! ## Names and namespaces -/

variable {selection : Selection} {document : Value} {bindings : Bindings}

/-- The method of a selected operation is one of HTTP. -/
theorem method_mem_of_mem_operations {operation : Operation}
    (h : operation ∈ selection.operations document) : operation.method ∈ httpMethods := by
  rw [Selection.operations] at h
  split at h
  · rw [operationsOf, List.mem_flatMap] at h
    obtain ⟨path, -, h⟩ := h
    exact (mem_operationsAt.mp h).2.2
  · cases h

/-- A function and its namespace are named after the method and the path that the function shows. -/
theorem ServiceFunction.names_of_mem (h : bindingsOf selection document = .ok bindings) {f : ServiceFunction}
    (hf : f ∈ bindings.functions) : f.method ∈ httpMethods ∧ f.name = Naming.functionName f.method f.path ∧
      f.scope = Naming.scopeName f.method f.path := by
  have hbuilds := forall₂_of_mapM_eq_ok (bindingsOf_eq_ok_iff.mp h).2
  obtain ⟨⟨f, types⟩, hpair, rfl⟩ := List.mem_map.mp hf
  obtain ⟨operation, hop, hbuild⟩ := exists_mem_left_of_forall₂ hbuilds hpair
  have hheaded := OperationContext.headed_of_build hbuild
  rw [hheaded.functionName_eq, hheaded.scope_eq, hheaded.method_eq, hheaded.path_eq]
  exact ⟨method_mem_of_mem_operations hop, rfl, rfl⟩

/-- **Two operations have one name exactly when they have one namespace.** -/
theorem ServiceFunction.name_eq_iff_scope_eq (h : bindingsOf selection document = .ok bindings)
    {f g : ServiceFunction} (hf : f ∈ bindings.functions) (hg : g ∈ bindings.functions) :
    f.name = g.name ↔ f.scope = g.scope := by
  obtain ⟨hmethod, hname, hscope⟩ := names_of_mem h hf
  obtain ⟨hmethod', hname', hscope'⟩ := names_of_mem h hg
  rw [hname, hname', hscope, hscope', Naming.functionName_eq_iff hmethod hmethod',
    Naming.scopeName_eq_iff hmethod hmethod']

/-- **Collisions are reported exactly.** There are none exactly when the names of the service functions are
different, and these are exactly when their namespaces are. In general there is one for each operation that
is not the first with its namespace, in order, and its message names the namespace, the first operation that
has it and that operation. -/
theorem collisions_exact (h : bindingsOf selection document = .ok bindings) :
    (bindings.collisions = [] ↔ (bindings.functions.map ServiceFunction.name).Nodup) ∧
    ((bindings.functions.map ServiceFunction.name).Nodup ↔
      (bindings.functions.map ServiceFunction.scope).Nodup) ∧
    ∃ positions : List Nat, positions.Pairwise (· < ·) ∧
      (∀ i, i ∈ positions ↔ Repeats bindings.functions i) ∧
      List.Forall₂ (fun i text => ∃ first later, bindings.functions[i]? = some later ∧
          bindings.functions.find? (fun f => f.scope = later.scope) = some first ∧
          text = "Namespace " ++ later.scope ++ " is shared by " ++
            (Text.upper first.method ++ " " ++ first.path) ++ " and " ++
            (Text.upper later.method ++ " " ++ later.path))
        positions (bindings.collisions.map Collision.message) := by
  have hnames : (bindings.functions.map ServiceFunction.name).Nodup ↔
      (bindings.functions.map ServiceFunction.scope).Nodup := by
    unfold List.Nodup
    rw [List.pairwise_map, List.pairwise_map]
    exact List.Pairwise.iff_of_mem fun hf hg => not_congr (ServiceFunction.name_eq_iff_scope_eq h hf hg)
  have hholds : HoldsFirsts [] [] := fun _ => rfl
  obtain ⟨positions, hsorted, hmem, hreports⟩ :=
    exists_positions_of_collisionsAfter bindings.functions hholds
  have hmem : ∀ i, i ∈ positions ↔ Repeats bindings.functions i := fun i =>
    (hmem i).trans (and_iff_right (Nat.zero_le i))
  have hnone : bindings.collisions = [] ↔ (bindings.functions.map ServiceFunction.scope).Nodup := by
    rw [nodup_scope_iff, ← List.length_eq_zero_iff, Bindings.collisions, collisionsOf, ← hreports.length_eq,
      List.length_eq_zero_iff, List.eq_nil_iff_forall_not_mem]
    exact forall_congr' fun i => not_congr (hmem i)
  refine ⟨hnone.trans hnames.symm, hnames, positions, hsorted, hmem, ?_⟩
  rw [List.forall₂_map_right_iff]
  refine hreports.imp fun i collision hreport => ?_
  exact ⟨collision.first, collision.later, hreport.1, hreport.2, rfl⟩

/-! ## A document with a collision -/

/-- Two paths that differ in a placeholder, with one method each. -/
def petPaths : List (Scalar × Value) :=
  [(.text "/pets", .map [(.text "get", .map [])]), (.text "/pets/\x7bid\x7d", .map [(.text "get", .map [])])]

/-- A document with these paths. -/
def petDocument : Value := .map [(.text "paths", .map petPaths)]

/-- The operations of the document. -/
def petOperations : List Operation := [⟨"/pets", "get", []⟩, ⟨"/pets/\x7bid\x7d", "get", []⟩]

theorem operations_petDocument : Selection.operations {} petDocument = petOperations := by
  have hsorted : (((pathItems petPaths).map Prod.fst).mergeSort fun a b => decide (a ≤ b))
      = ["/pets", "/pets/\x7bid\x7d"] := by
    simp [petPaths, pathItems, List.mergeSort, List.MergeSort.Internal.splitInTwo]
  rw [Selection.operations_eq rfl, hsorted]
  rfl

/-- Both operations have one name, and the second one is reported. -/
theorem collisions_exact_petDocument : ∃ bindings, bindingsOf {} petDocument = .ok bindings ∧
    ¬ (bindings.functions.map ServiceFunction.name).Nodup ∧
    bindings.collisions.map Collision.message
      = ["Namespace NSGetPets is shared by GET /pets and GET /pets/\x7bid\x7d"] := by
  obtain ⟨pairs, hpairs, hmessages⟩ : ∃ pairs,
      petOperations.mapM (Selection.context {} petDocument).build = .ok pairs ∧
      (Bindings.mk pairs).collisions.map Collision.message
        = ["Namespace NSGetPets is shared by GET /pets and GET /pets/\x7bid\x7d"] := ⟨_, rfl, by decide⟩
  have hbindings : bindingsOf {} petDocument = .ok ⟨pairs⟩ :=
    bindingsOf_eq_ok_iff.mpr ⟨⟨_, rfl⟩, operations_petDocument ▸ hpairs⟩
  obtain ⟨hiff, -⟩ := collisions_exact hbindings
  refine ⟨_, hbindings, fun hnodup => ?_, hmessages⟩
  rw [hiff.mpr hnodup] at hmessages
  cases hmessages

end ServiceBindings
