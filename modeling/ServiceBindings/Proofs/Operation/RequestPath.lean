import ServiceBindings.Module.Services
import ServiceBindings.Proofs.TypeScript.TemplateText

/-! # The address of a request

A service function writes the path of its operation into a template literal as it is, with the placeholder of
the identifier turned into an interpolation (`Naming.requestPath`). The literal should denote the path: it is
closed by the back quote behind the path, interpolates nothing but the identifier, and its value is the path
with the identifier in place of each placeholder (`Naming.DenotesPath`).

**It does so exactly for the paths that can be written as they are** (`Naming.denotesPath_iff`): those without a
back quote, a backslash or a carriage return, in which a dollar sign stands before a brace only if that brace
opens the placeholder (`Naming.IsVerbatim`). That nothing else will do shows already where the identifier is the
text of its own interpolation. The literal then has the value that it is written with, while an escape would be
shorter than what it is written with, and no carriage return would be left (`Naming.Passed`). -/

namespace ServiceBindings

namespace Naming

open TypeScript (Evaluates escape? length_le_of_escape? units units_append units_cons)

/-! ## Template texts -/

/-- In a text, a dollar sign stands before a brace only if the brace opens the placeholder of the identifier. -/
def OpensIdOnly (cs : List Char) : Prop := ∀ rest, '$' :: '\x7b' :: rest <:+ cs → ['i', 'd', '\x7d'] <+: rest

/-- A text can be written in a template literal as it is. -/
structure IsVerbatim (cs : List Char) : Prop where
  /-- No back quote closes the literal. -/
  backQuote : '`' ∉ cs
  /-- No backslash begins an escape. -/
  backslash : '\\' ∉ cs
  /-- No carriage return becomes a line feed. -/
  carriageReturn : '\r' ∉ cs
  /-- No interpolation other than that of the identifier is opened. -/
  opensIdOnly : OpensIdOnly cs

/-- The template literal that a path is written in denotes the path: whatever stands behind, the literal ends
with the path, and its value is the path with the identifier in place of each placeholder. -/
def DenotesPath (path : String) : Prop := ∀ (id : String) (after : List Char),
  Evaluates id ((requestPath path).toList ++ '`' :: after)
    (units (Text.replaceAll idPlaceholder id path).toList) after

/-- What a character in front of a text opens. -/
theorem opensIdOnly_cons {c : Char} {cs : List Char} : OpensIdOnly (c :: cs) ↔
    (c = '$' → ∀ rest, cs = '\x7b' :: rest → ['i', 'd', '\x7d'] <+: rest) ∧ OpensIdOnly cs := by
  simp only [OpensIdOnly, List.suffix_cons_iff, List.cons.injEq]
  constructor
  · intro h
    exact ⟨fun hc rest hcs => h rest (.inl ⟨hc.symm, hcs.symm⟩), fun rest hrest => h rest (.inr hrest)⟩
  · rintro ⟨hhead, htail⟩ rest (⟨hc, hcs⟩ | hrest)
    · exact hhead hc.symm rest hcs.symm
    · exact htail rest hrest

/-- A character other than a dollar sign opens nothing. -/
theorem opensIdOnly_cons_of_ne {c : Char} (hc : c ≠ '$') {cs : List Char} :
    OpensIdOnly (c :: cs) ↔ OpensIdOnly cs :=
  opensIdOnly_cons.trans (and_iff_right fun h => absurd h hc)

/-- The placeholder opens nothing by itself. -/
theorem opensIdOnly_placeholder {rest : List Char} :
    OpensIdOnly (idPlaceholder.toList ++ rest) ↔ OpensIdOnly rest := by
  show OpensIdOnly ('\x7b' :: 'i' :: 'd' :: '\x7d' :: rest) ↔ _
  rw [opensIdOnly_cons_of_ne (by decide), opensIdOnly_cons_of_ne (by decide), opensIdOnly_cons_of_ne (by decide),
    opensIdOnly_cons_of_ne (by decide)]

/-- The interpolation opens that of the identifier. -/
theorem opensIdOnly_interpolation {rest : List Char} :
    OpensIdOnly (idInterpolation.toList ++ rest) ↔ OpensIdOnly rest := by
  show OpensIdOnly ('$' :: (idPlaceholder.toList ++ rest)) ↔ _
  rw [opensIdOnly_cons, opensIdOnly_placeholder]
  refine and_iff_right fun _ tail htail => ?_
  cases htail
  exact List.prefix_append ['i', 'd', '\x7d'] rest

/-! ## Paths as template texts -/

/-- The path as a template text. -/
def requestChars (path : List Char) : List Char :=
  Chars.replaceAll idPlaceholder.toList idInterpolation.toList path

theorem placeholder_ne_nil : idPlaceholder.toList ≠ [] := by decide

/-- A placeholder is interpolated. -/
theorem requestChars_placeholder (rest : List Char) :
    requestChars (idPlaceholder.toList ++ rest) = idInterpolation.toList ++ requestChars rest :=
  Chars.replaceAll_append placeholder_ne_nil _ rest

/-- Any other character stays. -/
theorem requestChars_cons {c : Char} {rest : List Char} (h : ¬ idPlaceholder.toList <+: c :: rest) :
    requestChars (c :: rest) = c :: requestChars rest := Chars.replaceAll_cons h _

/-- The characters of a path stand in its template text. -/
theorem subset_requestChars (path : List Char) : path ⊆ requestChars path := by
  induction path using Chars.replaceInduction placeholder_ne_nil with
  | nil => exact List.nil_subset _
  | occurrence rest ih =>
      rw [requestChars_placeholder]
      refine List.append_subset.mpr ⟨fun c hc => ?_, fun c hc => List.mem_append_right _ (ih hc)⟩
      exact List.mem_append_left _ (List.mem_cons_of_mem '$' hc)
  | char c rest h ih =>
      rw [requestChars_cons h]
      exact List.cons_subset_cons c ih

/-- A template text that does not begin with an interpolation begins as the path does. -/
theorem exists_of_requestChars_eq_cons {path rest : List Char} {c : Char} (h : requestChars path = c :: rest)
    (hc : c ≠ '$') : ∃ tail, path = c :: tail ∧ rest = requestChars tail := by
  induction path using Chars.replaceInduction placeholder_ne_nil with
  | nil => cases h
  | occurrence tail =>
      rw [requestChars_placeholder] at h
      exact absurd (List.cons.inj h).1.symm hc
  | char d tail hno =>
      rw [requestChars_cons hno] at h
      obtain ⟨rfl, rfl⟩ := List.cons.inj h
      exact ⟨tail, rfl, rfl⟩

/-- What a template text begins with, up to the first dollar sign, the path begins with. -/
theorem prefix_of_prefix_requestChars {word path : List Char} (hword : '$' ∉ word)
    (h : word <+: requestChars path) : word <+: path := by
  induction word generalizing path with
  | nil => exact List.nil_prefix
  | cons c word ih =>
      obtain ⟨rest, hrest⟩ := h
      rw [List.cons_append] at hrest
      have hc : c ≠ '$' := fun heq => hword (heq ▸ List.mem_cons_self)
      obtain ⟨tail, rfl, htail⟩ := exists_of_requestChars_eq_cons hrest.symm hc
      have hprefix : word <+: requestChars tail := ⟨rest, htail⟩
      exact (List.prefix_cons_inj c).mpr (ih (fun hmem => hword (List.mem_cons_of_mem c hmem)) hprefix)

/-- A path opens no more than its template text. -/
theorem opensIdOnly_of_requestChars {path : List Char} (h : OpensIdOnly (requestChars path)) :
    OpensIdOnly path := by
  induction path using Chars.replaceInduction placeholder_ne_nil with
  | nil => exact h
  | occurrence rest ih =>
      rw [requestChars_placeholder, opensIdOnly_interpolation] at h
      exact opensIdOnly_placeholder.mpr (ih h)
  | char c rest hno ih =>
      rw [requestChars_cons hno, opensIdOnly_cons] at h
      refine opensIdOnly_cons.mpr ⟨?_, ih h.2⟩
      rintro hc tail rfl
      -- the brace either opens a placeholder, or stands in the template text as well
      by_cases hid : idPlaceholder.toList <+: '\x7b' :: tail
      · exact (List.prefix_cons_inj '\x7b').mp hid
      · exact prefix_of_prefix_requestChars (by decide) (h.1 hc _ (requestChars_cons hid))

/-! ## From the path to the value -/

/-- The end of a text that can be written as it is can be, too. -/
theorem IsVerbatim.suffix {cs ds : List Char} (h : IsVerbatim ds) (hsuffix : cs <:+ ds) : IsVerbatim cs :=
  ⟨fun hmem => h.backQuote (hsuffix.subset hmem), fun hmem => h.backslash (hsuffix.subset hmem),
    fun hmem => h.carriageReturn (hsuffix.subset hmem),
    fun rest hrest => h.opensIdOnly rest (hrest.trans hsuffix)⟩

/-- A dollar sign that stays in the template text opens no interpolation. -/
theorem head?_requestChars_ne {rest : List Char} (h : OpensIdOnly ('$' :: rest)) (after : List Char) :
    (requestChars rest ++ '`' :: after).head? ≠ some '\x7b' := by
  intro hhead
  cases hrest : requestChars rest with
  | nil =>
      rw [hrest] at hhead
      cases hhead
  | cons d behind =>
      rw [hrest, List.cons_append, List.head?_cons, Option.some.injEq] at hhead
      subst hhead
      -- the brace is one of the path, so it opens a placeholder, which is interpolated
      obtain ⟨tail, rfl, -⟩ := exists_of_requestChars_eq_cons hrest (by decide)
      obtain ⟨front, rfl⟩ := (opensIdOnly_cons.mp h).1 rfl tail rfl
      cases (requestChars_placeholder front).symm.trans hrest

/-- **A text that can be written as it is is read back**, with the identifier in place of each placeholder. -/
theorem evaluates_requestChars (id : String) (after : List Char) {path : List Char} (h : IsVerbatim path) :
    Evaluates id (requestChars path ++ '`' :: after)
      (units (Chars.replaceAll idPlaceholder.toList id.toList path)) after := by
  induction path using Chars.replaceInduction placeholder_ne_nil with
  | nil => exact .close
  | occurrence rest ih =>
      rw [requestChars_placeholder, Chars.replaceAll_append placeholder_ne_nil, units_append]
      exact .interpolation (ih (h.suffix (List.suffix_append _ rest)))
  | char c rest hno ih =>
      have hrest := ih (h.suffix (List.suffix_cons c rest))
      rw [requestChars_cons hno, Chars.replaceAll_cons hno, units_cons]
      by_cases hc : c = '$'
      · subst hc
        exact .dollar (head?_requestChars_ne h.opensIdOnly after) hrest
      · refine .char (fun hmem => ?_) hrest
        simp only [List.mem_cons, List.not_mem_nil, or_false] at hmem
        rcases hmem with rfl | rfl | rfl | rfl
        · exact h.backQuote List.mem_cons_self
        · exact hc rfl
        · exact h.backslash List.mem_cons_self
        · exact h.carriageReturn List.mem_cons_self

/-! ## From the value to the path -/

/-- What is passed of a template literal up to its end, and the value of it, where the identifier is bound to the
text of its own interpolation. -/
structure Passed (taken : List Char) (us : List Nat) : Prop where
  /-- The value is not longer than what is passed. -/
  length_le : us.length ≤ (units taken).length
  /-- It is shorter behind a backslash. -/
  length_lt : '\\' ∈ taken → us.length < (units taken).length
  /-- Without a backslash no back quote is passed. -/
  backQuote : '\\' ∉ taken → '`' ∉ taken
  /-- Without a backslash there is no interpolation other than that of the identifier. -/
  opensIdOnly : '\\' ∉ taken → OpensIdOnly taken
  /-- Without a backslash no carriage return is in the value. -/
  carriageReturn : '\\' ∉ taken → 13 ∉ us

/-- A piece without back quote and backslash is passed. -/
theorem Passed.append_left {piece taken : List Char} {xs us : List Nat} (h : Passed taken us)
    (hlength : xs.length ≤ (units piece).length) (hquote : '`' ∉ piece) (hslash : '\\' ∉ piece)
    (hreturn : 13 ∉ xs) (hopens : OpensIdOnly taken → OpensIdOnly (piece ++ taken)) :
    Passed (piece ++ taken) (xs ++ us) := by
  have hback : '\\' ∉ piece ++ taken → '\\' ∉ taken := fun hno hmem => hno (List.mem_append_right _ hmem)
  have hle := h.length_le
  refine ⟨?_, fun hmem => ?_, fun hno hmem => ?_, fun hno => hopens (h.opensIdOnly (hback hno)), fun hno hmem => ?_⟩
  · rw [units_append, List.length_append, List.length_append]
    omega
  · have hlt := h.length_lt ((List.mem_append.mp hmem).resolve_left hslash)
    rw [units_append, List.length_append, List.length_append]
    omega
  · exact h.backQuote (hback hno) ((List.mem_append.mp hmem).resolve_left hquote)
  · exact (List.mem_append.mp hmem).elim hreturn (h.carriageReturn (hback hno))

/-- An escape is passed, and its value is shorter. -/
theorem Passed.escape {piece taken : List Char} {xs us : List Nat} (h : Passed taken us)
    (hlength : xs.length ≤ (units piece).length) : Passed ('\\' :: (piece ++ taken)) (xs ++ us) := by
  have hlt : (xs ++ us).length < (units ('\\' :: (piece ++ taken))).length := by
    have hle := h.length_le
    have hone : Json.unitsOf '\\' = [92] := rfl
    rw [units_cons, units_append, hone, List.length_append, List.length_append, List.length_append,
      List.length_singleton]
    omega
  exact ⟨Nat.le_of_lt hlt, fun _ => hlt, fun hno => absurd List.mem_cons_self hno,
    fun hno => absurd List.mem_cons_self hno, fun hno => absurd List.mem_cons_self hno⟩

/-- The unit of the carriage return is that of no other character. -/
theorem eq_carriageReturn_of_mem_unitsOf {c : Char} (h : 13 ∈ Json.unitsOf c) : c = '\r' := by
  rw [Json.unitsOf] at h
  split at h
  · have hcode : c.toNat = '\r'.toNat := (List.mem_singleton.mp h).symm
    exact Char.toNat_inj.mp hcode
  · simp only [List.mem_cons, List.not_mem_nil, or_false] at h
    omega

/-- **A literal is passed up to its end.** -/
theorem exists_passed {source rest : List Char} {us : List Nat} (h : Evaluates idInterpolation source us rest) :
    ∃ taken, source = taken ++ '`' :: rest ∧ Passed taken us := by
  induction h with
  | close =>
      refine ⟨[], rfl, Nat.le_refl 0, nofun, fun _ => nofun, fun _ rest hrest => ?_, fun _ => nofun⟩
      cases List.suffix_nil.mp hrest
  | @interpolation source rest us _ ih =>
      obtain ⟨taken, rfl, hpassed⟩ := ih
      exact ⟨idInterpolation.toList ++ taken, rfl,
        hpassed.append_left (Nat.le_refl _) (by decide) (by decide) (by decide) opensIdOnly_interpolation.mpr⟩
  | @dollar source rest us hhead _ ih =>
      obtain ⟨taken, rfl, hpassed⟩ := ih
      refine ⟨'$' :: taken, rfl, ?_⟩
      show Passed (['$'] ++ taken) ([36] ++ us)
      refine hpassed.append_left (Nat.le_refl _) (by decide) (by decide) (by decide) fun hopens => ?_
      refine opensIdOnly_cons.mpr ⟨?_, hopens⟩
      rintro - tail rfl
      exact absurd rfl hhead
  | @escape source behind rest escaped us hescape _ ih =>
      obtain ⟨piece, rfl, hlength⟩ := length_le_of_escape? hescape
      obtain ⟨taken, rfl, hpassed⟩ := ih
      exact ⟨'\\' :: (piece ++ taken), by simp, hpassed.escape hlength⟩
  | @lineEnd source rest us _ ih =>
      obtain ⟨taken, rfl, hpassed⟩ := ih
      refine ⟨'\r' :: '\n' :: taken, rfl, ?_⟩
      show Passed (['\r', '\n'] ++ taken) ([10] ++ us)
      refine hpassed.append_left (by decide) (by decide) (by decide) (by decide) fun hopens => ?_
      exact (opensIdOnly_cons_of_ne (by decide)).mpr ((opensIdOnly_cons_of_ne (by decide)).mpr hopens)
  | @carriageReturn source rest us _ _ ih =>
      obtain ⟨taken, rfl, hpassed⟩ := ih
      refine ⟨'\r' :: taken, rfl, ?_⟩
      show Passed (['\r'] ++ taken) ([10] ++ us)
      exact hpassed.append_left (by decide) (by decide) (by decide) (by decide)
        (opensIdOnly_cons_of_ne (by decide)).mpr
  | @char c source rest us hc _ ih =>
      obtain ⟨taken, rfl, hpassed⟩ := ih
      simp only [List.mem_cons, List.not_mem_nil, or_false, not_or] at hc
      obtain ⟨hquote, hdollar, hback, hreturn⟩ := hc
      refine ⟨c :: taken, rfl, ?_⟩
      show Passed ([c] ++ taken) (Json.unitsOf c ++ us)
      refine hpassed.append_left ?_ ?_ ?_ ?_ (opensIdOnly_cons_of_ne hdollar).mpr
      · rw [units_cons, List.length_append]
        exact Nat.le_add_right _ _
      · exact fun hmem => hquote (List.mem_singleton.mp hmem).symm
      · exact fun hmem => hback (List.mem_singleton.mp hmem).symm
      · exact fun hmem => hreturn (eq_carriageReturn_of_mem_unitsOf hmem)

/-- The unit of a carriage return stands in every text that holds one. -/
theorem mem_units_of_carriageReturn {cs : List Char} (h : '\r' ∈ cs) : 13 ∈ units cs :=
  List.mem_flatMap.mpr ⟨'\r', h, by decide⟩

/-- **A path that is denoted can be written as it is.** -/
theorem isVerbatim_of_denotesPath {path : String} (h : DenotesPath path) : IsVerbatim path.toList := by
  have hread := h idInterpolation []
  rw [requestPath, Text.toList_replaceAll, ← requestChars] at hread
  obtain ⟨taken, htaken, hpassed⟩ := exists_passed hread
  obtain rfl := List.append_cancel_right htaken
  -- the value is the template text itself, so nothing is escaped
  have hback : '\\' ∉ requestChars path.toList := fun hmem => Nat.lt_irrefl _ (hpassed.length_lt hmem)
  have hsubset := subset_requestChars path.toList
  exact ⟨fun hmem => hpassed.backQuote hback (hsubset hmem), fun hmem => hback (hsubset hmem),
    fun hmem => hpassed.carriageReturn hback (mem_units_of_carriageReturn (hsubset hmem)),
    opensIdOnly_of_requestChars (hpassed.opensIdOnly hback)⟩

/-- The address of a function stands in its text, in a template literal. -/
theorem exists_text_eq_url (templates : Templates) (f : ServiceFunction) : ∃ before after,
    f.text templates = before ++ "    url: `" ++ f.requestPath ++ "`,\n" ++ after := by
  refine ⟨Documentation.ofFunction f ++ "export const " ++ f.name ++ " = (" ++
      (templates .functionArguments).text (Text.join ", " f.arguments) ++ ") =>\n" ++
      "  request<" ++ f.responseType ++ ">(\x7b\n",
    "    method: '" ++ f.method ++ "',\n" ++ (templates .requestData).text f.dataLines ++
      (templates .requestOptions).text f.optionLines ++ "  \x7d);\n\n", ?_⟩
  unfold ServiceFunction.text
  simp only [String.append_assoc]

/-- **The address denotes the path exactly if the path can be written as it is.** Then the template literal of
the address ends at the back quote behind the path, interpolates nothing but the identifier, and has the path
with the identifier in place of each placeholder as its value; and it is this literal that the text of a
function with this address holds. -/
theorem denotesPath_iff (path : String) : (DenotesPath path ↔ IsVerbatim path.toList) ∧
    ∀ (templates : Templates) (f : ServiceFunction), f.requestPath = requestPath path →
      ∃ before after, f.text templates = before ++ "    url: `" ++ requestPath path ++ "`,\n" ++ after := by
  refine ⟨⟨isVerbatim_of_denotesPath, fun h id after => ?_⟩, fun templates f hf => ?_⟩
  · rw [requestPath, Text.toList_replaceAll, Text.toList_replaceAll]
    exact evaluates_requestChars id after h
  · rw [← hf]
    exact exists_text_eq_url templates f

/-- A back quote in a path closes the literal: what is left of the path stands behind it. -/
theorem not_denotesPath_backQuote : ¬ DenotesPath "/a`b" ∧
    Evaluates "7" ((requestPath "/a`b").toList ++ "`,\n".toList) (units "/a".toList) "b`,\n".toList := by
  refine ⟨fun h => (isVerbatim_of_denotesPath h).backQuote (by decide), ?_⟩
  have hrequest : (requestPath "/a`b").toList ++ "`,\n".toList = '/' :: 'a' :: '`' :: "b`,\n".toList := by decide
  rw [hrequest]
  exact .char (by decide) (.char (by decide) .close)

/-- A dollar sign and a brace open another interpolation. -/
example : ¬ DenotesPath "/a/$\x7bx\x7d" := fun h =>
  absurd ((isVerbatim_of_denotesPath h).opensIdOnly "x\x7d".toList (by decide)) (by decide)

end Naming

end ServiceBindings
