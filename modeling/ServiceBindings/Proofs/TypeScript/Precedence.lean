import ServiceBindings.Proofs.TypeScript.Emitted
import ServiceBindings.Proofs.TypeScript.Scanning

/-! # Operator precedence

The items of an array and the members of an intersection must stand in parentheses exactly when an
operator stands in them outside all brackets (`grouped`). The printer decides this by `isCompound`, which
reads comments as code, so that it can be wrong about an object with described properties.

**When it is right is decided by the descriptions alone** (`Printer.keepsPrecedence_iff`): all arrays and
intersections over schemas with the given property descriptions are written correctly if and only if each
of the descriptions is transparent to the scan. An apostrophe is enough to break an array of a union. -/

namespace ServiceBindings

namespace TypeScript

/-- An expression as it has to be written where an operator would bind to its surroundings. -/
def grouped (expression : String) : String :=
  if HasOperator expression then "(" ++ expression ++ ")" else expression

/-- An expression with parentheses is another one. -/
theorem parenthesized_ne (expression : String) : "(" ++ expression ++ ")" ≠ expression := by
  intro h
  have hlength := congrArg String.length h
  simp only [String.length_append] at hlength
  have hone : "(".length = 1 := rfl
  omega

/-- An operand is written correctly exactly when `isCompound` is right about it. -/
theorem operand_eq_grouped_iff {expression : String} :
    operand expression = grouped expression ↔
      (isCompound expression = true ↔ HasOperator expression) := by
  unfold operand grouped
  by_cases hcompound : isCompound expression = true <;> by_cases hop : HasOperator expression
  · rw [if_pos hcompound, if_pos hop]
    exact iff_of_true rfl (iff_of_true hcompound hop)
  · rw [if_pos hcompound, if_neg hop]
    exact iff_of_false (parenthesized_ne expression) fun h => hop (h.mp hcompound)
  · rw [if_neg hcompound, if_pos hop]
    exact iff_of_false (parenthesized_ne expression).symm fun h => hcompound (h.mpr hop)
  · rw [if_neg hcompound, if_neg hop]
    exact iff_of_true rfl (iff_of_false hcompound hop)

/-- Under annotations that fix no type a schema is written as its shape. -/
theorem annotated_of_fixedType?_eq_none {annotations : Annotations}
    (h : fixedType? annotations = none) {shape : Unit → Except ReferenceError String} {type : String}
    (hshape : shape () = .ok type) :
    annotated annotations shape = .ok (nullableType annotations type) :=
  annotated_eq_ok_iff.mpr ⟨type, rfl, Or.inr ⟨h, hshape⟩⟩

/-- An intersection of several expressions. -/
theorem intersection_of_two_le {types : List String} (h : 2 ≤ (distinct types).length) :
    intersection types = Text.join " & " ((distinct types).map operand) := by
  rw [intersection]
  split
  · next heq =>
      rw [heq] at h
      simp at h
  · next type heq =>
      rw [heq] at h
      simp at h
  · rfl

namespace Printer

/-- Arrays and intersections over schemas whose comments have texts of a kind are written with the
parentheses that their parts call for, on top of every chain of references and at every depth, provided
that no constant or enumeration takes their place. -/
structure KeepsPrecedence (p : Printer) (X : String → Prop) : Prop where
  /-- The items of an array. -/
  array : ∀ items annotations, (∀ x, p.Comments items x → X x) → fixedType? annotations = none →
    ∀ bound chain depth item,
      p.expressionWith (p.referenceExpression bound chain) depth items = .ok item →
      p.expressionWith (p.referenceExpression bound chain) depth (.array (some items) annotations)
        = .ok (nullableType annotations (grouped item ++ "[]"))
  /-- The members of an intersection. -/
  allOf : ∀ members annotations, (∀ c ∈ members, ∀ x, p.Comments c x → X x) →
    fixedType? annotations = none → ∀ bound chain depth types,
      p.typesWith (p.referenceExpression bound chain) depth members = .ok types →
      2 ≤ (distinct types).length →
      p.expressionWith (p.referenceExpression bound chain) depth (.allOf members annotations)
        = .ok (nullableType annotations (Text.join " & " ((distinct types).map grouped)))

variable {p : Printer} {X : String → Prop}

/-! ## Transparent descriptions -/

/-- **Where comments do no harm, precedence is kept.** -/
theorem keepsPrecedence_of_transparent (hindent : Text.isBlank p.indent = true)
    (hX : ∀ x, X x → Transparent x) : p.KeepsPrecedence X := by
  have hoperand : ∀ {s : Schema} {bound : Nat} {chain : List String} {depth : Nat} {type : String},
      (∀ x, p.Comments s x → X x) →
      p.expressionWith (p.referenceExpression bound chain) depth s = .ok type →
      operand type = grouped type := fun hcomments htype =>
    operand_eq_grouped_iff.mpr
      ((weaves_expressionWith_referenceExpression hindent hcomments htype).isCompound_iff hX)
  constructor
  · intro items annotations hcomments hfixed bound chain depth item hitem
    rw [expressionWith]
    refine annotated_of_fixedType?_eq_none hfixed ?_
    rw [hitem, ← hoperand hcomments hitem]
    rfl
  · intro members annotations hcomments hfixed bound chain depth types htypes hlength
    -- each type is that of a member, whose comments are transparent
    have hmap : (distinct types).map operand = (distinct types).map grouped := by
      refine List.map_congr_left fun type htype => ?_
      obtain ⟨c, hc, htype⟩ := exists_mem_left_of_forall₂ (forall₂_of_typesWith_eq_ok htypes)
        (List.mem_eraseDups.mp htype)
      exact hoperand (hcomments c hc) htype
    rw [expressionWith]
    refine annotated_of_fixedType?_eq_none hfixed ?_
    rw [htypes, ← hmap, ← intersection_of_two_le hlength]
    rfl

/-! ## Described objects -/

/-- An object with a described property, inside as many other objects as given. -/
def described (text : String) : Nat → Schema
  | 0 => .object [("a", .primitive [] [(.text "description", .scalar (.text text))])] none
      .unspecified []
  | n + 1 => .object [("a", described text n)] none .unspecified []

/-- What is written for such an object. -/
def describedType (p : Printer) (text : String) : Nat → Nat → String
  | 0, depth => p.objectType depth [p.member depth [] "a"
      (.primitive [] [(.text "description", .scalar (.text text))]) unknownType]
  | n + 1, depth => p.objectType depth [p.member depth [] "a" (described text n)
      (describedType p text n (depth + 1))]

/-- The object is written as it is said to be. -/
theorem expressionWith_described {onReference : Nat → String → Except ReferenceError String}
    (text : String) (n depth : Nat) :
    p.expressionWith onReference depth (described text n) = .ok (p.describedType text n depth) := by
  induction n generalizing depth with
  | zero => rfl
  | succ n ih =>
      rw [described, expressionWith, List.isEmpty_cons, linesWith, ih]
      rfl

/-- The object holds no reference. -/
theorem references_described (text : String) (n : Nat) : (described text n).references = [] := by
  induction n with
  | zero => rfl
  | succ n ih =>
      rw [described, Schema.references, Schema.referencesOfProperties, ih]
      rfl

/-- The description of the innermost property is the only comment. -/
theorem eq_of_hasComment_described {text x : String} {n : Nat}
    (h : (described text n).HasComment x) : x = text := by
  induction n with
  | zero =>
      rcases Schema.hasComment_iff_child.mp h with ⟨c, hprop, hdesc⟩ | ⟨c, hc, h⟩
      · cases hprop with
        | declared hmem =>
            cases List.mem_singleton.mp hmem
            have hread : (Schema.primitive [] [(.text "description", .scalar (.text text))]).description?
                = if Text.isBlank text then none else some text := rfl
            rw [hread] at hdesc
            split at hdesc
            · cases hdesc
            · exact (Option.some.inj hdesc).symm
      · cases hc with
        | property hmem =>
            cases List.mem_singleton.mp hmem
            rcases Schema.hasComment_iff_child.mp h with ⟨d, hprop, -⟩ | ⟨d, hd, -⟩
            · cases hprop
            · cases hd
  | succ n ih =>
      have hnone : (described text n).description? = none := by
        cases n <;> rfl
      rcases Schema.hasComment_iff_child.mp h with ⟨c, hprop, hdesc⟩ | ⟨c, hc, h⟩
      · cases hprop with
        | declared hmem =>
            cases List.mem_singleton.mp hmem
            rw [hnone] at hdesc
            cases hdesc
      · cases hc with
        | property hmem =>
            cases List.mem_singleton.mp hmem
            exact ih h

/-- The type of the object is woven, and no operator stands outside its brackets. -/
theorem woven_describedType (hindent : Text.isBlank p.indent = true) (text : String) (n depth : Nat) :
    Woven (· = text) false false (p.describedType text n depth).toList := by
  induction n generalizing depth with
  | zero =>
      refine woven_objectType hindent depth fun line hline => ?_
      rw [List.mem_singleton.mp hline]
      refine weaves_member hindent (fun x hx => ?_) (weaves_of_all_isNeutral (by decide)) depth [] "a"
      exact eq_of_hasComment_described (n := 0)
        (Schema.hasComment_iff_child.mpr (Or.inl ⟨_, .declared (List.mem_singleton_self _), hx⟩))
  | succ n ih =>
      refine woven_objectType hindent depth fun line hline => ?_
      rw [List.mem_singleton.mp hline]
      refine weaves_member hindent (fun x hx => ?_) ⟨false, (ih (depth + 1)).nest⟩ depth [] "a"
      exact eq_of_hasComment_described (n := n + 1)
        (Schema.hasComment_iff_child.mpr (Or.inl ⟨_, .declared (List.mem_singleton_self _), hx⟩))

/-! ## What a comment leaves behind -/

/-- A scan that comes back out of an object type with one line comes back out of the line. -/
theorem scan_line_of_scan_objectType (hindent : Text.isBlank p.indent = true) {depth : Nat}
    {line : String} {outer : Int}
    (h : scan (.code outer) (p.objectType depth [line]).toList = .code outer) :
    scan (.code (outer + 1)) line.toList = .code (outer + 1) := by
  have heq : (p.objectType depth [line]).toList = ['\x7b', '\n'] ++ line.toList ++
      ('\n' :: (p.margin depth).toList) ++ ['\x7d'] := by
    rw [toList_objectType]
    simp [closing]
  have hopen : scan (.code outer) ['\x7b', '\n'] = .code (outer + 1) := rfl
  have hline : (scan (.code (outer + 1)) line.toList).Marked :=
    marked_scan_code (outer + 1) _
  rw [heq, scan_append, scan_append, scan_append, hopen] at h
  -- from behind: the bracket, the margin in front of it, and then the line
  have hclose := eq_code_of_step_closing (marked_scan hline _) h
  refine eq_code_of_scan_plain hline (fun c hc => ?_) hclose
  rcases List.mem_cons.mp hc with rfl | hc
  · rfl
  · exact isPlain_of_isBlank (List.all_eq_true.mp (isBlank_margin hindent depth) c hc)

/-- The line of a property without description. -/
theorem toList_member_of_none {s : Schema} (hdesc : s.description? = none) (depth : Nat)
    (type : String) : (p.member depth [] "a" s type).toList
      = ((p.margin (depth + 1)).toList ++ "a?: ".toList) ++ type.toList ++ [';'] := by
  have hkey : propertyKey "a" = "a" := rfl
  simp [member, hdesc, hkey]

/-- The line of a property with a description. -/
theorem toList_member_of_some {s : Schema} {text : String} (hdesc : s.description? = some text)
    (depth : Nat) (type : String) : (p.member depth [] "a" s type).toList
      = (comment text (p.margin (depth + 1))).toList ++
        ((p.margin (depth + 1)).toList ++ "a?: ".toList ++ type.toList ++ [';']) := by
  have hkey : propertyKey "a" = "a" := rfl
  simp [member, hdesc, hkey]

/-- A scan that comes back out of a described object comes back out of the comment. -/
theorem scan_comment_of_scan_describedType (hindent : Text.isBlank p.indent = true) {text : String}
    (htext : Text.isBlank text = false) {n depth : Nat} {outer : Int}
    (h : scan (.code outer) (p.describedType text n depth).toList = .code outer) :
    scan (.code (outer + n + 1)) (comment text "").toList = .code (outer + n + 1) := by
  induction n generalizing depth outer with
  | zero =>
      have hdesc : (Schema.primitive [] [(.text "description", .scalar (.text text))]).description?
          = some text := by
        show (if Text.isBlank text then none else some text) = some text
        rw [htext, if_neg Bool.false_ne_true]
      have hblank := List.all_eq_true.mp (isBlank_margin hindent (depth + 1))
      have hline := scan_line_of_scan_objectType hindent h
      rw [toList_member_of_some hdesc, scan_append, scan_comment_margin (isBlank_margin hindent _)]
        at hline
      have hinner : outer + ((0 : Nat) : Int) + 1 = outer + 1 := by omega
      rw [hinner]
      refine eq_code_of_scan_plain (marked_scan_code (outer + 1) _) (fun c hc => ?_) hline
      have htail : ∀ c ∈ "a?: ".toList ++ unknownType.toList ++ [';'], isPlain c = true :=
        List.all_eq_true.mp (by decide)
      rw [List.append_assoc, List.append_assoc, List.mem_append, ← List.append_assoc] at hc
      rcases hc with hc | hc
      · exact isPlain_of_isBlank (hblank c hc)
      · exact htail c hc
  | succ n ih =>
      have hdesc : (described text n).description? = none := by
        cases n <;> rfl
      have hblank := List.all_eq_true.mp (isBlank_margin hindent (depth + 1))
      have hcode : (ScanState.code (outer + 1)).Settled := trivial
      have hlead : scan (.code (outer + 1)) ((p.margin (depth + 1)).toList ++ "a?: ".toList)
          = .code (outer + 1) := by
        rw [scan_append, scan_of_isBlank hcode hblank]
        rfl
      have hline := scan_line_of_scan_objectType hindent h
      rw [toList_member_of_none hdesc, scan_append, scan_append, hlead] at hline
      have htype := eq_code_of_scan_plain (marked_scan_code (outer + 1) _)
        (List.all_eq_true.mp (by decide)) hline
      have hinner : outer + ((n + 1 : Nat) : Int) + 1 = outer + 1 + n + 1 := by omega
      rw [hinner]
      exact ih htype

/-! ## The exact condition -/

/-- Where precedence is kept, `isCompound` is right about every expression of the kind. -/
theorem KeepsPrecedence.isCompound_iff (h : p.KeepsPrecedence X) {s : Schema} {type : String}
    (hcomments : ∀ x, p.Comments s x → X x)
    (htype : p.expressionWith (p.referenceExpression 0 []) 0 s = .ok type) :
    isCompound type = true ↔ HasOperator type := by
  -- an array with these items shows what `isCompound` says about them
  have harray := h.array s [] hcomments rfl 0 [] 0 type htype
  have hwritten : p.expressionWith (p.referenceExpression 0 []) 0 (.array (some s) [])
      = .ok (operand type ++ "[]") := by
    rw [expressionWith, htype]
    rfl
  rw [hwritten, Except.ok.injEq] at harray
  refine operand_eq_grouped_iff.mp (String.toList_inj.mp ?_)
  have hlist := congrArg String.toList harray
  rw [String.toList_append] at hlist
  exact List.append_cancel_right (hlist.trans String.toList_append)

/-- A described object or a string. -/
def describedOrString (text : String) (n : Nat) : Schema :=
  .union .anyOf [described text n, .primitive ["string"] []] []

/-- What is written for a described object or a string. -/
theorem expressionWith_describedOrString
    {onReference : Nat → String → Except ReferenceError String} (text : String) (n : Nat) :
    p.expressionWith onReference 0 (describedOrString text n)
      = .ok (p.describedType text n 0 ++ " | string") := by
  -- the two members are different, so neither is dropped from the union
  have hne : "string" ≠ p.describedType text n 0 := by
    intro h
    have hlist := congrArg String.toList h
    cases n <;> rw [describedType, toList_objectType] at hlist <;> cases hlist
  have hunion : union [p.describedType text n 0, "string"]
      = p.describedType text n 0 ++ " | string" := by
    have hdistinct : distinct [p.describedType text n 0, "string"]
        = [p.describedType text n 0, "string"] := by
      simp [distinct, List.eraseDups_cons, hne]
    rw [union, hdistinct]
    simp [Text.join, String.append_assoc]
  rw [← hunion, describedOrString, expressionWith, typesWith, expressionWith_described]
  rfl

/-- The description of the innermost property is the only comment there, too. -/
theorem eq_of_comments_describedOrString {text x : String} {n : Nat}
    (h : p.Comments (describedOrString text n) x) : x = text := by
  have hnone : (describedOrString text n).references = [] := by
    rw [describedOrString, Schema.references, Schema.referencesOfMembers, references_described]
    rfl
  rcases Schema.hasComment_iff_child.mp (h.hasComment hnone) with ⟨c, hprop, -⟩ | ⟨c, hc, h⟩
  · cases hprop
  · rcases List.mem_cons.mp (Schema.child_union_iff.mp hc) with rfl | hc
    · exact eq_of_hasComment_described h
    · rw [List.mem_singleton.mp hc] at h
      rcases Schema.hasComment_iff_child.mp h with ⟨d, hprop, -⟩ | ⟨d, hd, -⟩
      · cases hprop
      · cases hd

/-- The operator of the union stands outside all brackets, and a described object has none. -/
theorem hasOperator_describedOrString (hindent : Text.isBlank p.indent = true) (text : String)
    (n : Nat) : ¬ HasOperator (p.describedType text n 0) ∧
      HasOperator (p.describedType text n 0 ++ " | string") := by
  have hobject := woven_describedType hindent text n 0
  have hspace : Woven (· = text) false false [' '] :=
    woven_of_isNeutral (List.all_eq_true.mp (by decide))
  have hstring : Woven (· = text) false false " string".toList :=
    woven_of_isNeutral (List.all_eq_true.mp (by decide))
  have hunion : Woven (· = text) false true (p.describedType text n 0 ++ " | string").toList := by
    rw [String.toList_append]
    exact hobject.append (hspace.append (.operator (by decide) hstring))
  rw [HasOperator, HasOperator, hobject.exists_isOperator_iff, hunion.exists_isOperator_iff]
  exact ⟨Bool.false_ne_true, rfl⟩

/-- **The descriptions decide.** All arrays and intersections over schemas with comments of a kind are
written with the right parentheses exactly when the scan for operators comes out of each of these comments
as it went in. -/
theorem keepsPrecedence_iff (p : Printer) (hindent : Text.isBlank p.indent = true)
    (X : String → Prop) : p.KeepsPrecedence X ↔ ∀ x, X x → Transparent x := by
  refine ⟨fun h x hx => ?_, keepsPrecedence_of_transparent hindent⟩
  cases hblank : Text.isBlank x with
  | true => exact transparent_of_isBlank hblank
  | false =>
      intro depth hdepth
      -- an object inside `n` others has its comment between as many brackets as the depth says
      obtain ⟨n, hn⟩ : ∃ n : Nat, depth = 0 + n + 1 := ⟨(depth - 1).toNat, by omega⟩
      obtain ⟨hnone, hsome⟩ := hasOperator_describedOrString hindent x n
      have hobject : isCompound (p.describedType x n 0) = true ↔ _ :=
        h.isCompound_iff (fun y hy => eq_of_hasComment_described (hy.hasComment
          (references_described x n)) ▸ hx) (expressionWith_described x n 0)
      have hunion : isCompound (p.describedType x n 0 ++ " | string") = true ↔ _ :=
        h.isCompound_iff (fun y hy => eq_of_comments_describedOrString hy ▸ hx)
          (expressionWith_describedOrString x n)
      -- the scan comes out of the object, and an operator behind it is found: it is back in code
      have hout : scan (.code 0) (p.describedType x n 0).toList ≠ .found := fun hfound =>
        hnone (hobject.mp (decide_eq_true hfound))
      have hfound : scan (scan (.code 0) (p.describedType x n 0).toList) " | string".toList
          = .found := by
        rw [← scan_append, ← String.toList_append]
        exact of_decide_eq_true (hunion.mpr hsome)
      have hback := eq_code_zero_of_scan_plain (marked_scan_code 0 _)
        (List.all_eq_true.mp (by decide)) hout hfound
      rw [hn]
      exact scan_comment_of_scan_describedType hindent hblank hback

/-- Over schemas whose properties are described by a text without quotation marks and brackets precedence is
kept. -/
theorem keepsPrecedence_sentence :
    KeepsPrecedence ⟨none, "  "⟩ fun x => x = "A label | or none." := by
  refine (keepsPrecedence_iff ⟨none, "  "⟩ rfl _).mpr fun x hx => ?_
  rw [hx]
  exact transparent_of_isPassive (List.all_eq_true.mp (by decide))

/-- An apostrophe in a description breaks the array of a union: its text is that of a union with an array. -/
theorem array_describedOrString_apostrophe :
    ∃ item, expression ⟨none, "  "⟩ (describedOrString "it's" 0) = .ok item ∧ HasOperator item ∧
      expression ⟨none, "  "⟩ (.array (some (describedOrString "it's" 0)) []) = .ok (item ++ "[]") ∧
      item ++ "[]" ≠ grouped item ++ "[]" := by
  refine ⟨"\x7b\n  /** it's */\n  a?: unknown;\n\x7d | string", rfl, by decide, rfl, by decide⟩

end Printer

end TypeScript

end ServiceBindings
