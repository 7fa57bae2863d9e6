import ServiceBindings.Proofs.Schema.Congruence
import ServiceBindings.Proofs.TypeScript.Termination

/-! # Entering a schema through a reference

A schema can be declared where it stands, or through a reference to the place where it stands. The second
walk is the first one with that reference in front of every chain, and only this can make a difference: what
stands at a reference may lead back to the reference.

**What a reference leads to has the same outcome inside of the reference, unless the reference leads back to
itself** (`GuardedWalk.Run.sameUnless_returns`): then the failure, if there is one, is a cycle that begins and
ends with the reference. The walk of a printer keeps every congruence (`Printer.keeps_writing`), so this holds
of it, and a schema and a reference to it are declared by two such walks (`Printer.exists_runs_of_atPointer`). -/

namespace ServiceBindings

/-! ## A walk below a reference -/

namespace GuardedWalk

variable {σ ι τ : Type} {w : GuardedWalk σ ι τ}

/-- A reference leads to the references of the subject that it is located at. -/
def LeadsTo (w : GuardedWalk σ ι τ) (p q : String) : Prop := ∃ t, w.locate p = .ok t ∧ w.Mentions t q

/-- The failures of a reference that leads back to itself. -/
def Returns (w : GuardedWalk σ ι τ) (q : String) (e : ReferenceError) : Prop :=
  ∃ path, (q :: path ++ [q]).IsChain w.LeadsTo ∧ e = .cyclic (q :: path ++ [q])

/-- **What a reference leads to has the same outcome inside of the reference**, unless the reference leads back
to itself. -/
theorem Run.sameUnless_returns (hkeeps : w.Keeps) {q : String} {start : σ} (hat : w.locate q = .ok start)
    {count count' : Nat} {r r' : ι → Except ReferenceError τ} (h : w.Run count [] start r)
    (h' : w.Run count' [q] start r') (i : ι) : SameUnless (w.Returns q) (r i) (r' i) := by
  have hfront : w.Run count' ([q] ++ []) start r' := h'
  -- the reference leads along the chain, and on to whatever the subject mentions
  refine related_of_front (congruence_sameUnless _) hkeeps
    (fun chain s => ∀ p, w.Mentions s p → (q :: chain ++ [p]).IsChain w.LeadsTo) ?_ ?_ ?_ h hfront i
  · intro chain s p t hchain hp ht p' hp'
    have hstep : w.LeadsTo p p' := ⟨t, ht, hp'⟩
    have hlonger : (q :: (chain ++ p :: [p'])).IsChain w.LeadsTo :=
      List.isChain_cons_append_cons_cons.mpr ⟨hchain p hp, hstep, .singleton p'⟩
    rwa [List.cons_append, List.append_assoc]
  · intro chain s p r hchain hp hmem _ _
    obtain rfl := List.mem_singleton.mp hmem
    exact .inr ⟨_, ⟨chain, hchain p hp, rfl⟩, rfl⟩
  · intro p hp
    exact List.isChain_pair.mpr ⟨start, hat, hp⟩

end GuardedWalk

namespace TypeScript

/-! ## The walk of a printer -/

section Visits

variable {R : OutcomeRelation}

/-- Annotated types are related if the shapes are. -/
theorem related_annotated (hR : Congruence R) {shape shape' : Unit → Except ReferenceError String}
    (h : R _ (shape ()) (shape' ())) (annotations : Annotations) :
    R _ (annotated annotations shape) (annotated annotations shape') := by
  unfold annotated
  cases fixedType? annotations with
  | some type => exact hR.refl _
  | none => exact hR.bind_ok h fun _ _ htype => htype.map (nullableType annotations)

namespace Printer

-- the second walk writes everything a number of levels deeper than the first
variable {p : Printer} {f g : Nat → String → Except ReferenceError String} {shift : Nat}

/-- Depths are not told apart if the shift between them is not. -/
theorem alike_depth (hshift : R.Alike 0 shift) (depth : Nat) : R.Alike depth (shift + depth) := by
  have h := hshift.map (· + depth)
  simpa using h

/-- Object types are not told apart if neither the depths nor the lines are. -/
theorem alike_objectType (hshift : R.Alike 0 shift) (depth : Nat) {lines lines' : List String}
    (hlines : R.Alike lines lines') (additional : Additional Schema) :
    R.Alike (p.objectType depth (lines ++ p.indexLines depth additional))
      (p.objectType (shift + depth) (lines' ++ p.indexLines (shift + depth) additional)) :=
  (alike_depth hshift depth).map₂ hlines fun depth lines =>
    p.objectType depth (lines ++ p.indexLines depth additional)

mutual

/-- The expressions of a schema are related if those of its references are. -/
theorem related_expressionWith (hR : Congruence R) (hshift : R.Alike 0 shift) (depth : Nat) :
    ∀ s : Schema, (∀ q d, q ∈ s.references → R _ (f d q) (g (shift + d) q)) →
      R _ (p.expressionWith f depth s) (p.expressionWith g (shift + depth) s)
  | .reference q, h => h q depth (by rw [Schema.references]; exact List.mem_singleton_self q)
  | .primitive _ _, _ => hR.refl _
  | .object properties required additional _, h => by
      rw [Schema.references] at h
      rw [expressionWith, expressionWith]
      have hundeclared := related_undeclaredWith hR hshift depth additional fun q d hq =>
        h q d (List.mem_append_left _ hq)
      have hlines := related_linesWith hR hshift depth (required.getD []) properties fun q d hq =>
        h q d (List.mem_append_right _ hq)
      refine related_annotated hR ?_ _
      split
      · exact hundeclared
      · exact hR.bind_ok hlines fun _ _ hlines => alike_objectType hshift depth hlines additional
  | .array none _, _ => hR.refl _
  | .array (some items) _, h => by
      rw [Schema.references] at h
      rw [expressionWith, expressionWith]
      have hitems := related_expressionWith hR hshift depth items h
      refine related_annotated hR (hR.bind_ok hitems fun _ _ hitem => ?_) _
      exact hitem.map fun item => operand item ++ "[]"
  | .allOf members _, h => by
      rw [Schema.references] at h
      rw [expressionWith, expressionWith]
      have htypes := related_typesWith hR hshift depth members h
      exact related_annotated hR (hR.bind_ok htypes fun _ _ htypes => htypes.map intersection) _
  | .union _ members _, h => by
      rw [Schema.references] at h
      rw [expressionWith, expressionWith]
      have htypes := related_typesWith hR hshift depth members h
      exact related_annotated hR (hR.bind_ok htypes fun _ _ htypes => htypes.map union) _

/-- The types of undeclared properties are related if the references in them are. -/
theorem related_undeclaredWith (hR : Congruence R) (hshift : R.Alike 0 shift) (depth : Nat) :
    ∀ a : Additional Schema,
      (∀ q d, q ∈ Schema.referencesOfAdditional a → R _ (f d q) (g (shift + d) q)) →
      R _ (p.undeclaredWith f depth a) (p.undeclaredWith g (shift + depth) a)
  | .unspecified, _ => hR.refl _
  | .allowed true, _ => hR.refl _
  | .allowed false, _ => hR.refl _
  | .typed s, h => by
      rw [Schema.referencesOfAdditional] at h
      rw [undeclaredWith, undeclaredWith]
      exact hR.bind_ok (related_expressionWith hR hshift depth s h) fun _ _ htype => htype.map recordOf

/-- The lines of properties are related if the references in the properties are. -/
theorem related_linesWith (hR : Congruence R) (hshift : R.Alike 0 shift) (depth : Nat)
    (required : List String) : ∀ ps : List (String × Schema),
      (∀ q d, q ∈ Schema.referencesOfProperties ps → R _ (f d q) (g (shift + d) q)) →
      R _ (p.linesWith f depth required ps) (p.linesWith g (shift + depth) required ps)
  | [], _ => hR.refl _
  | (name, s) :: rest, h => by
      rw [Schema.referencesOfProperties] at h
      rw [linesWith, linesWith]
      have htype := related_expressionWith hR hshift (depth + 1) s fun q d hq =>
        h q d (List.mem_append_left _ hq)
      have hrest := related_linesWith hR hshift depth required rest fun q d hq =>
        h q d (List.mem_append_right _ hq)
      refine hR.bind htype fun _ _ htype => hR.bind_ok hrest fun _ _ hrest => ?_
      have hmember := (alike_depth hshift depth).map₂ htype fun depth => p.member depth required name s
      exact hmember.map₂ hrest List.cons

/-- The types of members are related if the references in the members are. -/
theorem related_typesWith (hR : Congruence R) (hshift : R.Alike 0 shift) (depth : Nat) :
    ∀ ms : List Schema,
      (∀ q d, q ∈ Schema.referencesOfMembers ms → R _ (f d q) (g (shift + d) q)) →
      R _ (p.typesWith f depth ms) (p.typesWith g (shift + depth) ms)
  | [], _ => hR.refl _
  | s :: rest, h => by
      rw [Schema.referencesOfMembers] at h
      rw [typesWith, typesWith]
      have htype := related_expressionWith hR hshift depth s fun q d hq =>
        h q d (List.mem_append_left _ hq)
      have hrest := related_typesWith hR hshift depth rest fun q d hq =>
        h q d (List.mem_append_right _ hq)
      exact hR.bind htype fun _ _ htype => hR.bind_ok hrest fun _ _ hrest => htype.map₂ hrest List.cons

end

/-- At one depth the expressions of a schema are related if those of its references are. -/
theorem related_expressionWith_same (hR : Congruence R) {s : Schema}
    (h : ∀ q d, q ∈ s.references → R _ (f d q) (g d q)) (depth : Nat) :
    R _ (p.expressionWith f depth s) (p.expressionWith g depth s) := by
  have hrelated := related_expressionWith (p := p) (f := f) (g := g) hR (.inl rfl) depth s
  simp only [Nat.zero_add] at hrelated
  exact hrelated h

/-- The declarations of a schema are related if the expressions of its references are. -/
theorem related_declareWith (hR : Congruence R) {s : Schema}
    (h : ∀ q d, q ∈ s.references → R _ (f d q) (g d q)) (name : String) :
    R _ (p.declareWith f name s) (p.declareWith g name s) := by
  rw [declareWith_eq, declareWith_eq]
  have htype := related_expressionWith_same (s := declaredPart s) (p := p) hR
    (fun q d hq => h q d (references_declaredPart s ▸ hq)) 0
  exact hR.bind_ok htype fun _ _ htype => htype.map (declarationText name s)

/-- **The walk of a printer keeps every congruence.** -/
theorem keeps_writing (p : Printer) (name : String) : (p.writing name).Keeps := by
  intro R hR f g s h question
  have hdepth : ∀ q d, q ∈ s.references → R _ (f q (.expression d)) (g q (.expression d)) :=
    fun q d hq => h q _ (Schema.mem_references_iff.mp hq)
  show R _ (p.answer name f s question) (p.answer name g s question)
  cases question with
  | expression depth => exact related_expressionWith_same hR hdepth depth
  | declaration =>
      by_cases href : s.IsReference
      · obtain ⟨q, rfl⟩ := href
        exact h q _ (Schema.mentions_reference q)
      · rw [answer_declaration_of_not_isReference href, answer_declaration_of_not_isReference href]
        exact related_declareWith hR hdepth name

end Printer

end Visits

namespace Printer

variable {p : Printer} {document : Value}

/-- For a printer one reference leads to another as in its document. -/
theorem leadsTo_of_writing (hdocument : p.document = some document) {name q r : String}
    (h : (p.writing name).LeadsTo q r) : Schema.LeadsTo document q r := by
  obtain ⟨t, ht, hr⟩ := h
  have hfollow : Schema.followOnce p.document [] q = .ok t := ht
  obtain ⟨-, d, hd, hat⟩ := Schema.followOnce_eq_ok hfollow
  cases hdocument.symm.trans hd
  exact ⟨t, hat, hr⟩

/-- A schema and a reference to it are declared by two walks that begin in the schema: one inside of no
reference, the other inside of this one. -/
theorem exists_runs_of_atPointer (hdocument : p.document = some document) (name : String) {q : String}
    {s : Schema} (hat : Schema.atPointer document q = .ok s) : (p.writing name).locate q = .ok s ∧
      ∃ count r count' r', (p.writing name).Run count [] s r ∧ (p.writing name).Run count' [q] s r' ∧
        r .declaration = p.declaration name s ∧ r' .declaration = p.declaration name (.reference q) := by
  obtain ⟨r, hterminates, hr, -⟩ := exists_terminates_writing p name s
  obtain ⟨answer, hterminates', hanswer, -⟩ := exists_terminates_writing p name (.reference q)
  have hlocate : (p.writing name).locate q = .ok s := by
    show Schema.followOnce p.document [] q = .ok s
    rw [hdocument, Schema.followOnce_of_not_mem List.not_mem_nil, hat]
  have hrun := hterminates'.run
  cases hrun with
  | visit outcome _ _ _ _ hinside =>
      have hinside := hinside q s (Schema.mentions_reference q) List.not_mem_nil hlocate
      exact ⟨hlocate, _, r, _, outcome q, hterminates.run, hinside, hr, hanswer⟩

end Printer

end TypeScript

end ServiceBindings
