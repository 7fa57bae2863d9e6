import Mathlib.Data.List.TakeWhile
import ServiceBindings.Proofs.TypeScript.Woven

/-! # What the scan for operators makes of a text

`isCompound` scans a text without knowing comments. So a comment does no harm if the scan comes out of it
as it went in (`Transparent`), and in a woven text with such comments `isCompound` finds **exactly the
operators outside all brackets** (`Weaves.isCompound_iff`).

In the other direction, a scan that is back in code after plain text was there before it
(`eq_code_of_scan_plain`): a trace that a comment leaves is never made good. -/

namespace ServiceBindings

namespace TypeScript

/-- The scan comes out of a comment as it went in, between whatever number of brackets. -/
def Transparent (text : String) : Prop :=
  ∀ depth : Int, 1 ≤ depth → scan (.code depth) (comment text "").toList = .code depth

/-! ## One step of the scan -/

namespace ScanState

/-- The string literal that a scan stands in, if it does, ends with a mark. -/
def Marked : ScanState → Prop
  | .quoted mark _ => isMark mark = true
  | .escaped mark _ => isMark mark = true
  | _ => True

/-- A plain character that is no operator is passed in code. -/
theorem step_code {c : Char} (hplain : isPlain c = true) (hop : isOperator c = false) (depth : Int) :
    (ScanState.code depth).step c = .code depth := by
  simp only [isPlain, isMark, isOpening, isClosing, Bool.not_eq_true', Bool.or_eq_false_iff,
    decide_eq_false_iff_not, List.mem_cons, List.not_mem_nil, or_false, not_or] at hplain
  simp only [isOperator, decide_eq_false_iff_not, List.mem_cons, List.not_mem_nil, or_false] at hop
  obtain ⟨⟨⟨-, hmark⟩, hopen⟩, hclose⟩ := hplain
  rw [step, if_neg (by simpa using hmark), if_neg (by simpa using hopen),
    if_neg (by simpa using hclose), if_neg fun h => hop h.1]

/-- An operator is passed between brackets. -/
theorem step_code_operator {c : Char} (hop : isOperator c = true) {depth : Int} (hdepth : depth ≠ 0) :
    (ScanState.code depth).step c = .code depth := by
  simp only [isOperator, List.mem_cons, List.not_mem_nil, or_false, decide_eq_true_eq] at hop
  rcases hop with rfl | rfl
  · rw [step, if_neg (by decide), if_neg (by decide), if_neg (by decide), if_neg fun h => hdepth h.2]
  · rw [step, if_neg (by decide), if_neg (by decide), if_neg (by decide), if_neg fun h => hdepth h.2]

/-- Outside all brackets an operator is found. -/
theorem step_code_zero {c : Char} (hop : isOperator c = true) :
    (ScanState.code 0).step c = .found := by
  simp only [isOperator, List.mem_cons, List.not_mem_nil, or_false, decide_eq_true_eq] at hop
  rcases hop with rfl | rfl <;> rfl

/-- A bracket opens. -/
theorem step_code_opening {c : Char} (h : isOpening c = true) (depth : Int) :
    (ScanState.code depth).step c = .code (depth + 1) := by
  simp only [isOpening, List.mem_cons, List.not_mem_nil, or_false, decide_eq_true_eq] at h
  rcases h with rfl | rfl | rfl | rfl <;> rfl

/-- A bracket closes. -/
theorem step_code_closing {c : Char} (h : isOpening c = true) (depth : Int) :
    (ScanState.code (depth + 1)).step (closing c) = .code depth := by
  simp only [isOpening, List.mem_cons, List.not_mem_nil, or_false, decide_eq_true_eq] at h
  have hdepth : depth + 1 - 1 = depth := by omega
  rcases h with rfl | rfl | rfl | rfl <;> exact congrArg ScanState.code hdepth

/-- A step stays marked. -/
theorem Marked.step {state : ScanState} (h : state.Marked) (c : Char) : (state.step c).Marked := by
  cases state with
  | found => trivial
  | escaped mark depth => exact h
  | quoted mark depth =>
      rw [ScanState.step]
      split_ifs
      · exact h
      · trivial
      · exact h
  | code depth =>
      rw [ScanState.step]
      split_ifs with hmark
      · show isMark c = true
        rcases hmark with rfl | rfl <;> rfl
      · trivial
      · trivial
      · trivial
      · trivial

end ScanState

/-- A marked scan stays marked. -/
theorem marked_scan {state : ScanState} (h : state.Marked) (cs : List Char) : (scan state cs).Marked := by
  induction cs generalizing state with
  | nil => exact h
  | cons c cs ih => exact ih (h.step c)

/-- A scan that begins in code is marked. -/
theorem marked_scan_code (depth : Int) (cs : List Char) : (scan (.code depth) cs).Marked := by
  have hcode : (ScanState.code depth).Marked := trivial
  exact marked_scan hcode cs

/-- A scan does not leave an operator that it has found. -/
theorem scan_found (cs : List Char) : scan .found cs = .found := by
  induction cs with
  | nil => rfl
  | cons c cs ih => exact ih

/-- Quoted text does not end a string literal. -/
theorem Quoted.scan {cs : List Char} (h : Quoted cs) (depth : Int) :
    scan (.quoted '"' depth) cs = .quoted '"' depth := by
  induction h with
  | nil => rfl
  | @char c cs hmark hslash _ _ ih =>
      rw [scan_cons, ScanState.step, if_neg hslash, if_neg hmark, ih]
  | @escape c cs _ _ ih => exact ih

/-! ## Comments under a margin -/

namespace ScanState

/-- A scan does not stand behind a backslash. -/
def Settled : ScanState → Prop
  | .quoted mark _ => isMark mark = true
  | .escaped _ _ => False
  | _ => True

/-- Behind a line feed a scan is settled. -/
theorem Marked.settled_step {state : ScanState} (h : state.Marked) : (state.step '\n').Settled := by
  cases state with
  | found => trivial
  | escaped mark depth => exact h
  | quoted mark depth =>
      -- a string literal is not ended by a line feed, but by its mark
      have hmark : '\n' ≠ mark := by
        rintro rfl
        cases h
      rw [ScanState.step, if_neg (by decide), if_neg hmark]
      exact h
  | code depth =>
      rw [step_code (by decide) (by decide)]
      trivial

/-- A settled scan is marked. -/
theorem Settled.marked {state : ScanState} (h : state.Settled) : state.Marked := by
  cases state with
  | escaped => cases h
  | found => trivial
  | quoted => exact h
  | code => trivial

/-- White space leaves a settled scan where it is. -/
theorem Settled.step_of_isBlank {state : ScanState} (h : state.Settled) {c : Char}
    (hc : isBlank c = true) : state.step c = state := by
  cases state with
  | found => rfl
  | escaped => cases h
  | quoted mark depth =>
      have hslash : c ≠ '\\' := by
        rintro rfl
        cases hc
      have hmark : c ≠ mark := by
        rintro rfl
        have hplain := isPlain_of_isBlank hc
        rw [isPlain, show isMark c = true from h] at hplain
        simp at hplain
      rw [ScanState.step, if_neg hslash, if_neg hmark]
  | code depth =>
      exact step_code (isPlain_of_isBlank hc) (isOperator_eq_false_of_all (by decide) hc) depth

end ScanState

/-- White space leaves a settled scan where it is. -/
theorem scan_of_isBlank {state : ScanState} (h : state.Settled) {cs : List Char}
    (hcs : ∀ c ∈ cs, isBlank c = true) : scan state cs = state := by
  induction cs with
  | nil => rfl
  | cons c cs ih =>
      rw [scan_cons, h.step_of_isBlank (hcs c List.mem_cons_self)]
      exact ih fun d hd => hcs d (List.mem_cons_of_mem _ hd)

/-- White space is dropped at the end of a text only behind its last other character. -/
theorem stripRight_append {cs ds : List Char} (h : ∃ d ∈ ds, isBlank d = false) :
    Chars.stripRight (cs ++ ds) = cs ++ Chars.stripRight ds := by
  have hne : (ds.reverse.dropWhile isBlank).isEmpty = false := by
    rw [List.isEmpty_eq_false_iff]
    intro hnil
    obtain ⟨d, hd, hblank⟩ := h
    have hall := List.dropWhile_eq_nil_iff.mp hnil d (List.mem_reverse.mpr hd)
    rw [hblank] at hall
    cases hall
  rw [Chars.stripRight, List.reverse_append, List.dropWhile_append, hne, if_neg Bool.false_ne_true,
    List.reverse_append, List.reverse_reverse, Chars.stripRight]

/-- A line among several is scanned the same under every margin. -/
theorem scan_starredLine {margin : List Char} (hmargin : ∀ c ∈ margin, isBlank c = true)
    {state : ScanState} (h : state.Settled) (line : List Char) :
    scan state (starredLine margin line) = scan state (starredLine [] line) ∧
      (scan state (starredLine margin line)).Settled := by
  have hstar : ∃ d ∈ " * ".toList ++ line, isBlank d = false := ⟨'*', by simp, rfl⟩
  have heq : starredLine margin line = margin ++ starredLine [] line := by
    rw [starredLine, starredLine, List.nil_append, List.append_assoc, stripRight_append hstar,
      List.append_assoc]
  have hscan : scan state (starredLine margin line) = scan state (starredLine [] line) := by
    rw [heq, scan_append, scan_of_isBlank h hmargin]
  refine ⟨hscan, ?_⟩
  rw [hscan, starredLine, scan_append]
  exact (marked_scan h.marked _).settled_step

/-- Lines below each other are scanned the same under every margin. -/
theorem scan_flatMap_starredLine {margin : List Char} (hmargin : ∀ c ∈ margin, isBlank c = true)
    {state : ScanState} (h : state.Settled) (lines : List (List Char)) :
    scan state (lines.flatMap (starredLine margin)) = scan state (lines.flatMap (starredLine [])) ∧
      (scan state (lines.flatMap (starredLine margin))).Settled := by
  induction lines generalizing state with
  | nil => exact ⟨rfl, h⟩
  | cons line lines ih =>
      obtain ⟨hline, hsettled⟩ := scan_starredLine hmargin h line
      obtain ⟨hrest, hend⟩ := ih hsettled
      rw [List.flatMap_cons, List.flatMap_cons, scan_append, scan_append, ← hline]
      exact ⟨hrest, hend⟩

/-- **A comment is scanned the same under every margin.** -/
theorem scan_comment_margin {margin : String} (hmargin : Text.isBlank margin = true)
    (text : String) (depth : Int) :
    scan (.code depth) (comment text margin).toList = scan (.code depth) (comment text "").toList := by
  have hblank := List.all_eq_true.mp hmargin
  have hcode : (ScanState.code depth).Settled := trivial
  have hbegin : scan (.code depth) margin.toList = .code depth := scan_of_isBlank hcode hblank
  unfold comment
  split
  · rfl
  · split
    · simp only [String.toList_append, scan_append, hbegin]
      rfl
    -- the margin stands behind line feeds, where every scan is settled
    · have hsettled : (scan (.code depth) "/**\n".toList).Settled := by
        exact (marked_scan_code depth "/**".toList).settled_step
      obtain ⟨hlines, hend⟩ := scan_flatMap_starredLine hblank hsettled (commentLines text)
      simp only [String.toList_append, scan_append, hbegin, String.toList_ofList]
      rw [scan_of_isBlank hend hblank, hlines]
      rfl

/-- White space alone makes a comment that does no harm. -/
theorem transparent_of_isBlank {text : String} (h : Text.isBlank text = true) : Transparent text := by
  intro depth _
  have hstrip : Chars.strip text.toList = [] := by
    have hdrop : text.toList.dropWhile isBlank = [] :=
      List.dropWhile_eq_nil_iff.mpr (List.all_eq_true.mp h)
    rw [Chars.strip, hdrop, Chars.stripRight_nil]
  have hlines : commentLines text = [] := by
    rw [commentLines, hstrip]
    rfl
  rw [comment, hlines]
  split <;> rfl

/-! ## Comments without marks and brackets -/

/-- Whether a scan passes a character between brackets. -/
def isPassive (c : Char) : Bool := !(isMark c || isOpening c || isClosing c)

/-- Between brackets a scan passes text without marks and brackets. -/
theorem scan_of_isPassive {cs : List Char} (h : ∀ c ∈ cs, isPassive c = true) {depth : Int}
    (hdepth : depth ≠ 0) : scan (.code depth) cs = .code depth := by
  induction cs with
  | nil => rfl
  | cons c cs ih =>
      have hc := h c List.mem_cons_self
      simp only [isPassive, isMark, isOpening, isClosing, Bool.not_eq_true', Bool.or_eq_false_iff,
        decide_eq_false_iff_not, List.mem_cons, List.not_mem_nil, or_false] at hc
      obtain ⟨⟨hmark, hopen⟩, hclose⟩ := hc
      have hstep : (ScanState.code depth).step c = .code depth := by
        rw [ScanState.step, if_neg hmark, if_neg (by simpa using hopen), if_neg (by simpa using hclose),
          if_neg fun hop => hdepth hop.2]
      rw [scan_cons, hstep]
      exact ih fun d hd => h d (List.mem_cons_of_mem _ hd)

/-- A neutralized text holds nothing new but backslashes. -/
theorem mem_of_mem_neutralize {c : Char} :
    ∀ {cs : List Char}, c ∈ neutralize cs → c ∈ cs ∨ c = '\\'
  | [], h => absurd h List.not_mem_nil
  | [d], h => by
      rw [neutralize_cons (by simp)] at h
      exact Or.inl h
  | d :: e :: rest, h => by
      by_cases hend : d = '*' ∧ e = '/'
      · obtain ⟨rfl, rfl⟩ := hend
        rw [neutralize_end] at h
        simp only [List.mem_cons] at h ⊢
        rcases h with h | h | h | h
        · exact Or.inl (Or.inl h)
        · exact Or.inr h
        · exact Or.inl (Or.inr (Or.inl h))
        · exact (mem_of_mem_neutralize h).imp_left fun h => Or.inr (Or.inr h)
      · have hstay : ¬ (d = '*' ∧ (e :: rest).head? = some '/') := by
          rintro ⟨hd, he⟩
          exact hend ⟨hd, Option.some.inj he⟩
        rw [neutralize_cons hstay] at h
        rcases List.mem_cons.mp h with rfl | h
        · exact Or.inl List.mem_cons_self
        · exact (mem_of_mem_neutralize h).imp_left (List.mem_cons_of_mem d)

/-- The lines of a comment hold nothing but the text and backslashes. -/
theorem mem_of_mem_commentLines {text : String} {line : List Char} (hline : line ∈ commentLines text)
    {c : Char} (hc : c ∈ line) : c ∈ text.toList ∨ c = '\\' := by
  have hneutral := ((Chars.linesStandIn _).isInfix hline).subset hc
  refine (mem_of_mem_neutralize hneutral).imp_left fun h => ?_
  exact (List.dropWhile_suffix _).subset ((Chars.stripRight_prefix _).subset h)

/-- **A description without quotation marks and brackets does no harm**, operators or not. -/
theorem transparent_of_isPassive {text : String} (h : ∀ c ∈ text.toList, isPassive c = true) :
    Transparent text := by
  intro depth hdepth
  refine scan_of_isPassive (fun c hc => ?_) (by omega)
  have hline : ∀ line ∈ commentLines text, ∀ c ∈ line, isPassive c = true := by
    intro line hline c hc
    rcases mem_of_mem_commentLines hline hc with hc | rfl
    · exact h c hc
    · rfl
  have hstarred : ∀ line ∈ commentLines text, ∀ c ∈ starredLine [] line, isPassive c = true := by
    intro line hmem c hc
    rcases List.mem_append.mp hc with hc | hc
    · rcases List.mem_append.mp ((Chars.stripRight_prefix _).subset hc) with hc | hc
      · exact List.all_eq_true.mp (by decide : ([] ++ " * ".toList).all isPassive = true) c hc
      · exact hline line hmem c hc
    · rw [List.mem_singleton.mp hc]
      rfl
  unfold comment at hc
  split at hc
  · cases hc
  · split at hc
    · next line heq =>
        simp only [String.toList_append, String.toList_ofList, List.mem_append] at hc
        rcases hc with ((hc | hc) | hc) | hc
        · cases hc
        · exact List.all_eq_true.mp (by decide : "/** ".toList.all isPassive = true) c hc
        · exact hline line (by rw [heq]; exact List.mem_cons_self) c hc
        · exact List.all_eq_true.mp (by decide : " */\n".toList.all isPassive = true) c hc
    · simp only [String.toList_append, String.toList_ofList, List.mem_append] at hc
      rcases hc with (((hc | hc) | hc) | hc) | hc
      · cases hc
      · exact List.all_eq_true.mp (by decide : "/**\n".toList.all isPassive = true) c hc
      · obtain ⟨line, hmem, hc⟩ := List.mem_flatMap.mp hc
        exact hstarred line hmem c hc
      · cases hc
      · exact List.all_eq_true.mp (by decide : " */\n".toList.all isPassive = true) c hc

/-! ## Woven texts with transparent comments -/

/-- **A scan of a woven text** finds an operator that stands outside all brackets, and otherwise comes out
as it went in. -/
theorem Woven.scan_code {X : String → Prop} (hX : ∀ x, X x → Transparent x) {nested operator : Bool}
    {w : List Char} (h : Woven X nested operator w) {depth : Int} (hdepth : 0 ≤ depth)
    (hnested : nested = true → depth ≠ 0) : scan (.code depth) w
      = if depth = 0 ∧ operator = true then .found else .code depth := by
  induction h generalizing depth with
  | nil => simp
  | plain hplain hop _ _ ih =>
      rw [scan_cons, ScanState.step_code hplain hop, ih hdepth hnested]
  | @operator _ _ c w hop _ ih =>
      rw [scan_cons]
      by_cases hzero : depth = 0
      · subst hzero
        rw [ScanState.step_code_zero hop, scan_found, if_pos ⟨rfl, rfl⟩]
      · rw [ScanState.step_code_operator hop hzero, ih hdepth hnested, if_neg fun h => hzero h.1,
          if_neg fun h => hzero h.1]
  | @string _ _ body w hbody _ ih =>
      have hmark : (ScanState.code depth).step '"' = .quoted '"' depth := rfl
      have hend : (ScanState.quoted '"' depth).step '"' = .code depth := rfl
      rw [List.cons_append, scan_cons, hmark, scan_append, hbody.scan, scan_cons, hend,
        ih hdepth hnested]
  | @bracket _ _ _ o v w ho _ _ ihv ihw =>
      -- inside the brackets the depth is positive, so an operator there is passed
      have hinside : scan (.code (depth + 1)) v = .code (depth + 1) := by
        rw [ihv (by omega) (fun _ => by omega), if_neg fun h => by omega]
      rw [List.cons_append, scan_cons, ScanState.step_code_opening ho, scan_append, hinside, scan_cons,
        ScanState.step_code_closing ho, ihw hdepth hnested]
  | @comment _ x margin _ hx hmargin _ ih =>
      have hne := hnested rfl
      rw [scan_append, scan_comment_margin hmargin, hX x hx depth (by omega), ih hdepth hnested]

/-- **Where comments do no harm, `isCompound` is right.** -/
theorem Weaves.isCompound_iff {X : String → Prop} (hX : ∀ x, X x → Transparent x) {expression : String}
    (h : Weaves X false expression.toList) : isCompound expression = true ↔ HasOperator expression := by
  obtain ⟨operator, h⟩ := h
  rw [HasOperator, h.exists_isOperator_iff, isCompound, decide_eq_true_eq,
    h.scan_code hX (Int.le_refl 0) (fun hnested => absurd hnested Bool.false_ne_true)]
  cases operator <;> simp

/-! ## Scanning backwards -/

/-- A scan that is in code behind a plain character was there before it, unless it has found an
operator. -/
theorem eq_code_of_step_plain {state : ScanState} (hmarked : state.Marked) {c : Char}
    (hplain : isPlain c = true) {depth : Int} (h : state.step c = .code depth) : state = .code depth := by
  cases state with
  | found => cases h
  | escaped => cases h
  | quoted mark inner =>
      have hmark : c ≠ mark := by
        rintro rfl
        rw [isPlain, show isMark c = true from hmarked] at hplain
        simp at hplain
      rw [ScanState.step] at h
      split_ifs at h
  | code inner =>
      cases hop : isOperator c with
      | false => rwa [ScanState.step_code hplain hop] at h
      | true =>
          by_cases hzero : inner = 0
          · subst hzero
            rw [ScanState.step_code_zero hop] at h
            cases h
          · rwa [ScanState.step_code_operator hop hzero] at h

/-- **What is plain repairs nothing**: a scan that is in code behind plain text was there before it. -/
theorem eq_code_of_scan_plain {state : ScanState} (hmarked : state.Marked) {cs : List Char}
    (hplain : ∀ c ∈ cs, isPlain c = true) {depth : Int} (h : scan state cs = .code depth) :
    state = .code depth := by
  induction cs generalizing state with
  | nil => exact h
  | cons c cs ih =>
      have hrest := ih (hmarked.step c) (fun d hd => hplain d (List.mem_cons_of_mem _ hd)) h
      exact eq_code_of_step_plain hmarked (hplain c List.mem_cons_self) hrest

/-- A scan that is in code behind a closing bracket was in code before it. -/
theorem eq_code_of_step_closing {state : ScanState} (hmarked : state.Marked) {depth : Int}
    (h : state.step '\x7d' = .code depth) : state = .code (depth + 1) := by
  cases state with
  | found => cases h
  | escaped => cases h
  | quoted mark inner =>
      have hmark : '\x7d' ≠ mark := by
        rintro rfl
        cases hmarked
      rw [ScanState.step, if_neg (by decide), if_neg hmark] at h
      cases h
  | code inner =>
      have hstep : (ScanState.code inner).step '\x7d' = .code (inner - 1) := rfl
      rw [hstep] at h
      cases h
      congr 1
      omega

/-- Only outside all brackets a step finds an operator. -/
theorem eq_code_zero_of_step {state : ScanState} (hstate : state ≠ .found) {c : Char}
    (h : state.step c = .found) : state = .code 0 := by
  cases state with
  | found => exact absurd rfl hstate
  | escaped => cases h
  | quoted mark depth =>
      rw [ScanState.step] at h
      split_ifs at h
  | code depth =>
      rw [ScanState.step] at h
      split_ifs at h with _ _ _ hop
      rw [hop.2]

/-- A scan that finds an operator in plain text was outside all brackets before it. -/
theorem eq_code_zero_of_scan_plain {state : ScanState} (hmarked : state.Marked) {cs : List Char}
    (hplain : ∀ c ∈ cs, isPlain c = true) (hstate : state ≠ .found) (h : scan state cs = .found) :
    state = .code 0 := by
  induction cs generalizing state with
  | nil => exact absurd h hstate
  | cons c cs ih =>
      -- the operator is found here or further on; what comes before it is plain
      by_cases hstep : state.step c = .found
      · exact eq_code_zero_of_step hstate hstep
      · have hrest := ih (hmarked.step c) (fun d hd => hplain d (List.mem_cons_of_mem _ hd)) hstep h
        exact eq_code_of_step_plain hmarked (hplain c List.mem_cons_self) hrest

end TypeScript

end ServiceBindings
