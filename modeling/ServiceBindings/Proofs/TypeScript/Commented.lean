import Mathlib.Data.List.Chain
import ServiceBindings.Proofs.TypeScript.Lexis
import ServiceBindings.TypeScript.Comment

/-! # Where a comment ends

A documentation comment is read as **one comment and a line feed** (`read_comment`,
`outline_comment`), whatever its text is: no star of the text stands directly before a slash
(`EndFree`), as a backslash comes between the two, and so the comment ends with its own end mark. -/

namespace ServiceBindings

namespace Chars

/-! ## Parts of a text -/

/-- What is left after white space at the end was dropped is where the text begins. -/
theorem stripRight_prefix (cs : List Char) : stripRight cs <+: cs := by
  rw [stripRight, ← List.reverse_suffix, List.reverse_reverse]
  exact List.dropWhile_suffix _

/-- The lines of a text are none, or one that the text begins with and others that stand in it. -/
def LinesStandIn (cs : List Char) : Prop :=
  lines cs = [] ∨
    ∃ first rest, lines cs = first :: rest ∧ first <+: cs ∧ ∀ line ∈ rest, line <:+: cs

/-- Every line stands in the text. -/
theorem LinesStandIn.isInfix {cs : List Char} (h : LinesStandIn cs) {line : List Char}
    (hline : line ∈ lines cs) : line <:+: cs := by
  rcases h with hnil | ⟨first, rest, heq, hfirst, hrest⟩
  · rw [hnil] at hline
    cases hline
  · rw [heq] at hline
    rcases List.mem_cons.mp hline with rfl | hline
    · exact hfirst.isInfix
    · exact hrest line hline

/-- A line end opens a further line. -/
theorem linesStandIn_break (ends : List Char) {rest : List Char}
    (heq : lines (ends ++ rest) = [] :: lines rest) (h : LinesStandIn rest) :
    LinesStandIn (ends ++ rest) :=
  Or.inr ⟨[], lines rest, heq, List.nil_prefix, fun _ hline =>
    (h.isInfix hline).trans (List.suffix_append ends rest).isInfix⟩

/-- The lines of a text stand in it. -/
theorem linesStandIn (cs : List Char) : LinesStandIn cs := by
  induction cs using lines.induct with
  | case1 => exact Or.inl rfl
  | case2 rest ih => exact linesStandIn_break ['\r', '\n'] rfl ih
  | case3 c rest hcr hc ih =>
      refine linesStandIn_break [c] ?_ ih
      rw [List.singleton_append, lines, if_pos hc]
      exact hcr
  | case4 c rest hcr hc ih =>
      have heq : lines (c :: rest) = consLine c (lines rest) := by
        rw [lines, if_neg hc]
        exact hcr
      -- the character belongs to the first line; the others are those of the rest
      rcases ih with hnil | ⟨first, others, hrest, hfirst, hothers⟩
      · rw [hnil] at heq
        exact Or.inr ⟨[c], [], heq, List.prefix_append [c] rest, nofun⟩
      · rw [hrest] at heq
        refine Or.inr ⟨c :: first, others, heq, ?_, fun line hline => ?_⟩
        · exact (List.prefix_cons_inj c).mpr hfirst
        · exact (hothers line hline).trans (List.suffix_cons c rest).isInfix

end Chars

namespace TypeScript

/-! ## Texts without an end mark -/

/-- No star stands directly before a slash. -/
def EndFree (cs : List Char) : Prop := cs.IsChain fun a b => ¬ (a = '*' ∧ b = '/')

/-- A character other than a star begins no end mark. -/
theorem EndFree.cons {c : Char} {cs : List Char} (hcs : EndFree cs) (hc : c ≠ '*') :
    EndFree (c :: cs) :=
  List.IsChain.cons hcs fun _ _ hab => hc hab.1

/-- A text without stars holds no end mark. -/
theorem endFree_of_forall_ne {cs : List Char} (h : ∀ c ∈ cs, c ≠ '*') : EndFree cs := by
  induction cs with
  | nil => exact .nil
  | cons c cs ih =>
      exact (ih fun d hd => h d (List.mem_cons_of_mem _ hd)).cons (h c List.mem_cons_self)

/-- Two texts hold no end mark together if the second does not begin with a slash. -/
theorem EndFree.append {cs ds : List Char} (hcs : EndFree cs) (hds : EndFree ds)
    (hhead : ds.head? ≠ some '/') : EndFree (cs ++ ds) := by
  refine List.isChain_append.mpr ⟨hcs, hds, fun a _ b hb hab => hhead ?_⟩
  rw [Option.mem_def.mp hb, hab.2]

/-- A part of a text without end mark holds none. -/
theorem EndFree.isInfix {cs ds : List Char} (h : EndFree ds) (hpart : cs <:+: ds) : EndFree cs :=
  List.IsChain.infix h hpart

/-- A star before a slash gets a backslash behind it. -/
theorem neutralize_end (rest : List Char) :
    neutralize ('*' :: '/' :: rest) = '*' :: '\\' :: '/' :: neutralize rest := rfl

/-- Any other character stays. -/
theorem neutralize_cons {c : Char} {rest : List Char} (h : ¬ (c = '*' ∧ rest.head? = some '/')) :
    neutralize (c :: rest) = c :: neutralize rest := by
  refine Chars.replaceAll_cons ?_ _
  rintro ⟨tail, htail⟩
  cases htail
  exact h ⟨rfl, rfl⟩

/-- **A neutralized text holds no end mark**, and begins as before. -/
theorem endFree_neutralize :
    ∀ cs : List Char, EndFree (neutralize cs) ∧ (neutralize cs).head? = cs.head?
  | [] => ⟨.nil, rfl⟩
  | [c] => by
      rw [neutralize_cons (by simp)]
      exact ⟨.singleton c, rfl⟩
  | c :: d :: rest => by
      by_cases h : c = '*' ∧ d = '/'
      · obtain ⟨rfl, rfl⟩ := h
        rw [neutralize_end]
        -- the backslash separates the pair, and the text is read on behind the slash
        have hrest := (endFree_neutralize rest).1
        have hslash : EndFree ('\\' :: '/' :: neutralize rest) :=
          (hrest.cons (by decide)).cons (by decide)
        exact ⟨.cons_cons (by decide) hslash, rfl⟩
      · have hstay : ¬ (c = '*' ∧ (d :: rest).head? = some '/') := by
          rintro ⟨hc, hd⟩
          exact h ⟨hc, Option.some.inj hd⟩
        -- the next character is the one of the text itself, so no pair comes about here
        obtain ⟨hfree, hhead⟩ := endFree_neutralize (d :: rest)
        rw [neutralize_cons hstay]
        refine ⟨List.IsChain.cons hfree fun b hb hcb => h ⟨hcb.1, ?_⟩, rfl⟩
        rw [hhead, List.head?_cons, Option.mem_some_iff] at hb
        rw [hb, hcb.2]

/-- A text without end mark stays as it is. -/
theorem neutralize_of_endFree {cs : List Char} (h : EndFree cs) : neutralize cs = cs := by
  induction cs with
  | nil => rfl
  | cons c rest ih =>
      obtain ⟨hhead, hrest⟩ := List.isChain_cons.mp h
      rw [neutralize_cons fun hend => hhead '/' hend.2 ⟨hend.1, rfl⟩, ih hrest]

/-! ## Reading a comment -/

/-- A reader inside a comment. -/
def InComment (opened : List Char) (cursor : Cursor) : Prop :=
  cursor = .comment opened ∨ cursor = .star opened

/-- **A text without end mark does not end a comment**, unless it completes one. -/
theorem read_endFree {opened : List Char} {cs : List Char} (h : EndFree cs) {cursor : Cursor}
    (hcursor : cursor = .comment opened ∨ cursor = .star opened ∧ cs.head? ≠ some '/') :
    InComment opened (read cursor cs) ∧ outline cursor cs = [] := by
  induction cs generalizing cursor with
  | nil => exact ⟨hcursor.imp_right And.left, rfl⟩
  | cons c cs ih =>
      have hne : cursor ≠ .code [] := by
        rintro rfl
        rcases hcursor with h | h
        · cases h
        · cases h.1
      -- a star is remembered, and the character behind it is no slash
      have hstep : cursor.step c = .comment opened ∨
          cursor.step c = .star opened ∧ cs.head? ≠ some '/' := by
        by_cases hc : c = '*'
        · subst hc
          have hnext : cs.head? ≠ some '/' := by
            intro hhead
            cases cs with
            | nil => cases hhead
            | cons d rest =>
                exact (List.isChain_cons_cons.mp h).1 ⟨rfl, Option.some.inj hhead⟩
          rcases hcursor with rfl | ⟨rfl, -⟩
          · exact Or.inr ⟨rfl, hnext⟩
          · exact Or.inr ⟨rfl, hnext⟩
        · rcases hcursor with rfl | ⟨rfl, hslash⟩
          · exact Or.inl (by rw [Cursor.step, if_neg hc])
          · have hc' : c ≠ '/' := fun heq => hslash (by rw [heq]; rfl)
            exact Or.inl (by rw [Cursor.step, if_neg hc', if_neg hc])
      rw [read_cons, outline_cons_of_ne hne]
      exact ih (List.IsChain.tail h) hstep

/-- One line among several holds no end mark: behind its own star stands white space. -/
theorem endFree_starredLine {margin line : List Char} (hmargin : ∀ c ∈ margin, c ≠ '*')
    (hline : EndFree line) : EndFree (Chars.stripRight (margin ++ " * ".toList ++ line)) := by
  have hstar : EndFree ('*' :: ' ' :: line) :=
    .cons_cons (by decide) (hline.cons (by decide))
  have hwhole : EndFree (margin ++ ' ' :: '*' :: ' ' :: line) :=
    (endFree_of_forall_ne hmargin).append (hstar.cons (by decide)) (by simp)
  refine hwhole.isInfix ?_
  have heq : margin ++ " * ".toList ++ line = margin ++ ' ' :: '*' :: ' ' :: line := by simp
  rw [heq]
  exact (Chars.stripRight_prefix _).isInfix

/-- Lines below each other hold no end mark. -/
theorem endFree_flatMap_starredLine {margin : List Char} (hmargin : ∀ c ∈ margin, c ≠ '*')
    {lines : List (List Char)} (hlines : ∀ line ∈ lines, EndFree line) :
    EndFree (lines.flatMap (starredLine margin) ++ margin) := by
  induction lines with
  | nil => exact endFree_of_forall_ne hmargin
  | cons line lines ih =>
      have hrest := ih fun line hline => hlines line (List.mem_cons_of_mem _ hline)
      rw [List.flatMap_cons, starredLine, List.append_assoc, List.append_assoc]
      refine (endFree_starredLine hmargin (hlines line List.mem_cons_self)).append ?_ (by simp)
      exact hrest.cons (by decide)

/-- A comment that is not empty, between its marks. -/
theorem exists_comment_eq {text margin : String} (htext : text.isEmpty = false)
    (hmargin : Text.isBlank margin = true) : ∃ body, EndFree body ∧ body.head? ≠ some '/' ∧
      (comment text margin).toList
        = margin.toList ++ "/**".toList ++ body ++ " */\n".toList := by
  have hlines : ∀ line ∈ commentLines text, EndFree line := fun line hline =>
    (endFree_neutralize _).1.isInfix ((Chars.linesStandIn _).isInfix hline)
  have hblank : ∀ c ∈ margin.toList, c ≠ '*' := by
    rintro c hc rfl
    exact absurd (List.all_eq_true.mp hmargin '*' hc) (by decide)
  rw [comment, htext, if_neg Bool.false_ne_true]
  split
  -- a single line stands between the marks, several stand below each other
  · next line heq =>
      refine ⟨' ' :: line, (hlines line ?_).cons (by decide), by simp, by simp⟩
      rw [heq]
      exact List.mem_cons_self
  · refine ⟨'\n' :: ((commentLines text).flatMap (starredLine margin.toList) ++ margin.toList),
      (endFree_flatMap_starredLine hblank hlines).cons (by decide), by simp, by simp⟩

/-- The mark at the beginning of a comment. -/
theorem read_begin (opened : List Char) :
    read (.code opened) "/**".toList = .star opened ∧ outline (.code opened) "/**".toList = [] := by
  cases opened with
  | nil => exact ⟨rfl, rfl⟩
  | cons o opened => exact ⟨rfl, rfl⟩

/-- What stands between the marks. -/
theorem read_body {body : List Char} (hbody : EndFree body) (hhead : body.head? ≠ some '/')
    (opened : List Char) : InComment opened (read (.star opened) body) ∧
      outline (.star opened) body = [] :=
  read_endFree hbody (Or.inr ⟨rfl, hhead⟩)

/-- The mark at the end of a comment, and the line feed behind it. -/
theorem read_end {opened : List Char} {cursor : Cursor} (h : InComment opened cursor) :
    read cursor " */\n".toList = .code opened ∧
      outline cursor " */\n".toList = if opened = [] then ['\n'] else [] := by
  cases opened with
  | nil => rcases h with rfl | rfl <;> exact ⟨rfl, rfl⟩
  | cons o opened =>
      rw [if_neg (List.cons_ne_nil o opened)]
      rcases h with rfl | rfl <;> exact ⟨rfl, rfl⟩

/-- **A comment ends with its own end mark**; behind it the reader is where it was before. -/
theorem read_comment (text : String) {margin : String} (hmargin : Text.isBlank margin = true)
    (opened : List Char) : read (.code opened) (comment text margin).toList = .code opened := by
  cases htext : text.isEmpty with
  | true =>
      rw [comment, if_pos htext]
      rfl
  | false =>
      obtain ⟨body, hbody, hhead, heq⟩ := exists_comment_eq htext hmargin
      have hblank : ∀ c ∈ margin.toList, isPlain c = true := fun c hc =>
        isPlain_of_isBlank (List.all_eq_true.mp hmargin c hc)
      rw [heq, read_append, read_append, read_append, read_code_of_isPlain hblank,
        (read_begin opened).1]
      exact (read_end (read_body hbody hhead opened).1).1

/-- Inside brackets a comment has no outline. -/
theorem outline_comment_of_ne_nil (text : String) {margin : String}
    (hmargin : Text.isBlank margin = true) {opened : List Char} (hopened : opened ≠ []) :
    outline (.code opened) (comment text margin).toList = [] := by
  cases htext : text.isEmpty with
  | true =>
      rw [comment, if_pos htext]
      rfl
  | false =>
      obtain ⟨body, hbody, hhead, heq⟩ := exists_comment_eq htext hmargin
      have hblank : ∀ c ∈ margin.toList, isPlain c = true := fun c hc =>
        isPlain_of_isBlank (List.all_eq_true.mp hmargin c hc)
      obtain ⟨hend, houtline⟩ := read_body hbody hhead opened
      have hread := read_code_of_isPlain hblank opened
      simp only [heq, outline_append, read_append, hread, (read_begin opened).1, (read_begin opened).2,
        outline_of_isPlain_of_ne_nil hblank hopened, houtline, (read_end hend).2, if_neg hopened,
        List.append_nil]

/-- Outside all brackets the outline of a comment is the line feed behind it. -/
theorem outline_comment {text : String} (htext : text.isEmpty = false) :
    outline (.code []) (comment text "").toList = ['\n'] := by
  have hmargin : Text.isBlank "" = true := rfl
  obtain ⟨body, hbody, hhead, heq⟩ := exists_comment_eq htext hmargin
  obtain ⟨hend, houtline⟩ := read_body hbody hhead []
  rw [heq, String.toList_empty, List.nil_append, outline_append, outline_append, read_append,
    (read_begin []).1, (read_begin []).2, houtline, (read_end hend).2]
  rfl

end TypeScript

end ServiceBindings
