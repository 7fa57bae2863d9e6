/-! # Cutting text at characters

* `Chars.splitWhere p` cuts a text at every character that satisfies `p`, which are dropped; there
  is always at least one piece.
* `Chars.join separator` is the way back.

Functions on `List Char` live in the namespace `Chars`, their counterparts on `String` in `Text`. -/

namespace ServiceBindings

namespace Chars

/-- The pieces of a text between the characters that satisfy `p`. -/
def splitWhere (p : Char → Bool) : List Char → List (List Char)
  | [] => [[]]
  | c :: rest =>
      if p c then [] :: splitWhere p rest else (splitWhere p rest).modifyHead (c :: ·)

@[simp] theorem splitWhere_nil (p : Char → Bool) : splitWhere p [] = [[]] := rfl

theorem splitWhere_cons (p : Char → Bool) (c : Char) (rest : List Char) :
    splitWhere p (c :: rest)
      = if p c then [] :: splitWhere p rest else (splitWhere p rest).modifyHead (c :: ·) := rfl

/-- Cutting yields at least one piece. -/
theorem splitWhere_ne_nil (p : Char → Bool) (cs : List Char) : splitWhere p cs ≠ [] := by
  induction cs with
  | nil => simp
  | cons c rest ih =>
      by_cases h : p c
      · simp [splitWhere, h]
      · cases hs : splitWhere p rest with
        | nil => exact absurd hs ih
        | cons piece pieces => simp [splitWhere, h, hs]

/-- A text without separators is one piece. -/
theorem splitWhere_of_forall {p : Char → Bool} {cs : List Char} (h : ∀ c ∈ cs, p c = false) :
    splitWhere p cs = [cs] := by
  induction cs with
  | nil => rfl
  | cons c rest ih =>
      rw [splitWhere_cons, h c List.mem_cons_self, if_neg Bool.false_ne_true,
        ih fun d hd => h d (List.mem_cons_of_mem _ hd)]
      rfl

/-- A piece ends where the first separator stands. -/
theorem splitWhere_append_cons {p : Char → Bool} {piece : List Char} (h : ∀ c ∈ piece, p c = false)
    {separator : Char} (hseparator : p separator = true) (rest : List Char) :
    splitWhere p (piece ++ separator :: rest) = piece :: splitWhere p rest := by
  induction piece with
  | nil => rw [List.nil_append, splitWhere_cons, if_pos hseparator]
  | cons c piece ih =>
      rw [List.cons_append, splitWhere_cons, h c List.mem_cons_self, if_neg Bool.false_ne_true,
        ih fun d hd => h d (List.mem_cons_of_mem _ hd), List.modifyHead_cons]

/-- The pieces one after the other, with a separator between neighbours. -/
def join (separator : List Char) (pieces : List (List Char)) : List Char :=
  separator.intercalate pieces

/-- **Cutting undoes joining**: pieces without separators come back from the text in which one separator
stands between neighbours. -/
theorem splitWhere_join {p : Char → Bool} {pieces : List (List Char)} (hne : pieces ≠ [])
    (h : ∀ piece ∈ pieces, ∀ c ∈ piece, p c = false) {separator : Char}
    (hseparator : p separator = true) : splitWhere p (join [separator] pieces) = pieces := by
  induction pieces with
  | nil => exact absurd rfl hne
  | cons piece rest ih =>
      have hpiece := h piece List.mem_cons_self
      cases rest with
      | nil =>
          rw [join, List.intercalate_singleton]
          exact splitWhere_of_forall hpiece
      | cons next rest =>
          have hrest := ih (List.cons_ne_nil _ _) fun piece hmem => h piece (List.mem_cons_of_mem _ hmem)
          rw [join] at hrest
          rw [join, List.intercalate_cons_cons, List.append_assoc, List.singleton_append,
            splitWhere_append_cons hpiece hseparator, hrest]

/-- **Joining undoes cutting** at one character. -/
theorem join_splitWhere (separator : Char) (cs : List Char) :
    join [separator] (splitWhere (· == separator) cs) = cs := by
  induction cs with
  | nil => rfl
  | cons c rest ih =>
      obtain ⟨piece, pieces, hpieces⟩ := List.exists_cons_of_ne_nil (splitWhere_ne_nil (· == separator) rest)
      rw [splitWhere_cons, hpieces]
      rw [hpieces, join] at ih
      split
      · next hc =>
          rw [join, List.intercalate_cons_cons, ih, beq_iff_eq.mp hc]
          rfl
      · rw [List.modifyHead_cons, join]
        cases pieces with
        | nil =>
            rw [List.intercalate_singleton] at ih
            rw [List.intercalate_singleton, ih]
        | cons next pieces =>
            rw [List.intercalate_cons_cons] at ih
            rw [List.intercalate_cons_cons, List.cons_append, List.cons_append, ih]

/-- A character in a piece stands in the text, and is no separator. -/
theorem mem_of_mem_splitWhere {p : Char → Bool} {cs piece : List Char} (h : piece ∈ splitWhere p cs) {c : Char}
    (hc : c ∈ piece) : c ∈ cs ∧ p c = false := by
  induction cs generalizing piece with
  | nil =>
      rw [splitWhere_nil, List.mem_singleton] at h
      rw [h] at hc
      cases hc
  | cons d rest ih =>
      have hrest : ∀ piece ∈ splitWhere p rest, c ∈ piece → c ∈ d :: rest ∧ p c = false := fun piece h hc =>
        ⟨List.mem_cons_of_mem _ (ih h hc).1, (ih h hc).2⟩
      rw [splitWhere_cons] at h
      split at h
      · rcases List.mem_cons.mp h with rfl | h
        · cases hc
        · exact hrest piece h hc
      -- the character belongs to the first piece of the rest
      · next hd =>
          obtain ⟨first, others, hpieces⟩ := List.exists_cons_of_ne_nil (splitWhere_ne_nil p rest)
          rw [hpieces] at hrest
          rw [hpieces, List.modifyHead_cons] at h
          rcases List.mem_cons.mp h with rfl | h
          · rcases List.mem_cons.mp hc with rfl | hc
            · exact ⟨List.mem_cons_self, Bool.eq_false_iff.mpr hd⟩
            · exact hrest first List.mem_cons_self hc
          · exact hrest piece (List.mem_cons_of_mem _ h) hc

/-- A character that is no separator stands in a piece. -/
theorem exists_mem_splitWhere {p : Char → Bool} {cs : List Char} {c : Char} (h : c ∈ cs) (hc : p c = false) :
    ∃ piece ∈ splitWhere p cs, c ∈ piece := by
  induction cs with
  | nil => cases h
  | cons d rest ih =>
      obtain ⟨first, others, hpieces⟩ := List.exists_cons_of_ne_nil (splitWhere_ne_nil p rest)
      rw [splitWhere_cons, hpieces]
      rw [hpieces] at ih
      rcases List.mem_cons.mp h with rfl | h
      · rw [if_neg (Bool.eq_false_iff.mp hc), List.modifyHead_cons]
        exact ⟨c :: first, List.mem_cons_self, List.mem_cons_self⟩
      · obtain ⟨piece, hpiece, hmem⟩ := ih h
        split
        · exact ⟨piece, List.mem_cons_of_mem _ hpiece, hmem⟩
        · rw [List.modifyHead_cons]
          rcases List.mem_cons.mp hpiece with rfl | hpiece
          · exact ⟨d :: piece, List.mem_cons_self, List.mem_cons_of_mem _ hmem⟩
          · exact ⟨piece, List.mem_cons_of_mem _ hpiece, hmem⟩

/-- Where two texts are put together, the last piece of one and the first piece of the other become one. -/
theorem exists_splitWhere_append (p : Char → Bool) (cs ds : List Char) : ∃ front last first others,
    splitWhere p cs = front ++ [last] ∧ splitWhere p ds = first :: others ∧
      splitWhere p (cs ++ ds) = front ++ (last ++ first) :: others := by
  induction cs with
  | nil =>
      obtain ⟨first, others, hpieces⟩ := List.exists_cons_of_ne_nil (splitWhere_ne_nil p ds)
      exact ⟨[], [], first, others, rfl, hpieces, hpieces⟩
  | cons c rest ih =>
      obtain ⟨front, last, first, others, hrest, hds, happend⟩ := ih
      rw [splitWhere_cons, List.cons_append, splitWhere_cons, hrest, happend]
      split
      · exact ⟨[] :: front, last, first, others, rfl, hds, rfl⟩
      · cases front with
        | nil => exact ⟨[], c :: last, first, others, rfl, hds, rfl⟩
        | cons piece front => exact ⟨(c :: piece) :: front, last, first, others, rfl, hds, rfl⟩

/-- The first piece is where a text begins, and the others stand in it. -/
theorem exists_splitWhere_eq (p : Char → Bool) (cs : List Char) : ∃ first others,
    splitWhere p cs = first :: others ∧ first <+: cs ∧ ∀ piece ∈ others, piece <:+: cs := by
  induction cs with
  | nil => exact ⟨[], [], rfl, List.nil_prefix, nofun⟩
  | cons c rest ih =>
      obtain ⟨first, others, heq, hfirst, hothers⟩ := ih
      have hstays : ∀ piece, piece <:+: rest → piece <:+: c :: rest := fun piece h =>
        h.trans (List.suffix_cons c rest).isInfix
      by_cases hc : p c = true
      · refine ⟨[], first :: others, ?_, List.nil_prefix, fun piece hpiece => ?_⟩
        · rw [splitWhere_cons, if_pos hc, heq]
        · rcases List.mem_cons.mp hpiece with rfl | hpiece
          · exact hstays _ hfirst.isInfix
          · exact hstays _ (hothers piece hpiece)
      · refine ⟨c :: first, others, ?_, ?_, fun piece hpiece => hstays _ (hothers piece hpiece)⟩
        · rw [splitWhere_cons, if_neg hc, heq, List.modifyHead_cons]
        · exact (List.prefix_cons_inj c).mpr hfirst

/-- A piece stands in the text. -/
theorem isInfix_of_mem_splitWhere {p : Char → Bool} {cs piece : List Char} (h : piece ∈ splitWhere p cs) :
    piece <:+: cs := by
  obtain ⟨first, others, heq, hfirst, hothers⟩ := exists_splitWhere_eq p cs
  rw [heq] at h
  rcases List.mem_cons.mp h with rfl | h
  · exact hfirst.isInfix
  · exact hothers piece h

end Chars

namespace Text

/-- The pieces of a text between the occurrences of a character. -/
def splitAt (separator : Char) (text : String) : List String :=
  (Chars.splitWhere (· == separator) text.toList).map String.ofList

/-- The pieces one after the other, with a separator between neighbours. -/
def join (separator : String) (pieces : List String) : String :=
  separator.intercalate pieces

/-- Pieces are put together as texts or as lists of characters. -/
theorem ofList_join (separator : List Char) (pieces : List (List Char)) :
    String.ofList (Chars.join separator pieces) = join (.ofList separator) (pieces.map String.ofList) := by
  apply String.toList_injective
  have hpieces : (pieces.map String.ofList).map String.toList = pieces := by
    rw [List.map_map]
    exact List.map_id'' (fun _ => String.toList_ofList) pieces
  rw [String.toList_ofList, join, String.toList_intercalate, String.toList_ofList, hpieces, Chars.join]

end Text

end ServiceBindings
