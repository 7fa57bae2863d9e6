import ServiceBindings.Proofs.TypeScript.Declaration

/-! # Where lines end in what is written

Many characters end a line (`isLineBreak`), and the texts of a document may hold any of them. **In what is
written for a schema only line feeds do** (`FeedLined`, `Printer.feedLined_declaration`): a string literal
escapes the others, a comment is put together from the lines of its text, and all else is written in characters
of the printer's own. -/

namespace ServiceBindings

namespace Chars

/-- A character in a line is the one that was put in front, or stands in one of the lines before. -/
theorem mem_of_mem_consLine {c d : Char} {line : List Char} {rest : List (List Char)}
    (hline : line ∈ consLine c rest) (hd : d ∈ line) : d = c ∨ ∃ line ∈ rest, d ∈ line := by
  cases rest with
  | nil =>
      rw [List.mem_singleton.mp hline] at hd
      exact .inl (List.mem_singleton.mp hd)
  | cons first rest =>
      rcases List.mem_cons.mp hline with rfl | hline
      · rcases List.mem_cons.mp hd with rfl | hd
        · exact .inl rfl
        · exact .inr ⟨first, List.mem_cons_self, hd⟩
      · exact .inr ⟨line, List.mem_cons_of_mem _ hline, hd⟩

/-- **The lines of a text hold no line end.** -/
theorem isLineBreak_of_mem_lines {cs line : List Char} (hline : line ∈ lines cs) {c : Char} (hc : c ∈ line) :
    isLineBreak c = false := by
  induction cs using lines.induct generalizing line with
  | case1 => cases hline
  | case2 rest ih =>
      rcases List.mem_cons.mp hline with rfl | hline
      · cases hc
      · exact ih hline hc
  | case3 d rest hfeed hd ih =>
      rw [lines, if_pos hd] at hline
      · rcases List.mem_cons.mp hline with rfl | hline
        · cases hc
        · exact ih hline hc
      · exact hfeed
  | case4 d rest hfeed hd ih =>
      rw [lines, if_neg hd] at hline
      · rcases mem_of_mem_consLine hline hc with rfl | ⟨line, hline, hc⟩
        · exact Bool.not_eq_true _ ▸ hd
        · exact ih hline hc
      · exact hfeed

end Chars

namespace TypeScript

/-! ## Texts whose lines end with line feeds -/

/-- Only line feeds end lines in a text. -/
def FeedLined (cs : List Char) : Prop := ∀ c ∈ cs, isLineBreak c = true → c = '\n'

/-- A text on one line. -/
theorem feedLined_of_forall {cs : List Char} (h : ∀ c ∈ cs, isLineBreak c = false) : FeedLined cs := by
  intro c hc hbreak
  rw [h c hc] at hbreak
  cases hbreak

/-- What ends a line in a given text is looked up. -/
theorem feedLined_of_all {cs : List Char} (h : (cs.all fun c => !isLineBreak c || c == '\n') = true) :
    FeedLined cs := by
  intro c hc hbreak
  have hfeed := List.all_eq_true.mp h c hc
  rw [hbreak, Bool.not_true, Bool.false_or] at hfeed
  exact beq_iff_eq.mp hfeed

/-- A part of a text holds no further line ends. -/
theorem FeedLined.subset {cs ds : List Char} (h : FeedLined ds) (hpart : cs ⊆ ds) : FeedLined cs :=
  fun c hc => h c (hpart hc)

/-- Texts one after the other. -/
theorem feedLined_append_iff {cs ds : List Char} : FeedLined (cs ++ ds) ↔ FeedLined cs ∧ FeedLined ds := by
  simp only [FeedLined, List.mem_append, or_imp, forall_and]

/-- Texts with a separator between neighbours. -/
theorem feedLined_join {separator : String} {texts : List String} (hseparator : FeedLined separator.toList)
    (h : ∀ text ∈ texts, FeedLined text.toList) : FeedLined (Text.join separator texts).toList :=
  toList_join_of_append (feedLined_of_all rfl) (fun hcs hds => feedLined_append_iff.mpr ⟨hcs, hds⟩) hseparator h

/-- Texts one after the other, each made from an item. -/
theorem feedLined_flatMap {α : Type} {items : List α} {f : α → List Char} (h : ∀ item ∈ items, FeedLined (f item)) :
    FeedLined (items.flatMap f) := by
  intro c hc
  obtain ⟨item, hitem, hc⟩ := List.mem_flatMap.mp hc
  exact h item hitem c hc

/-! ## The pieces of an expression -/

/-- A JSON string stands on one line. -/
theorem feedLined_quote (text : String) : FeedLined (Json.quote text).toList := by
  rw [Json.toList_quote, Json.quoteChars, List.cons_append, ← List.singleton_append, feedLined_append_iff,
    feedLined_append_iff]
  refine ⟨feedLined_of_all (by decide), feedLined_of_forall fun c hc => ?_, feedLined_of_all (by decide)⟩
  exact (quoted_flatMap_escapeChar text.toList).isLineBreak_eq_false hc

/-- A class of characters ends no line if no character that does so is in it. -/
theorem isLineBreak_eq_false_of_all {P : Char → Bool} (hP : ['\n', '\x0b', '\x0c', '\r', '\x1c', '\x1d', '\x1e',
    '\u0085', '\u2028', '\u2029'].all (!P ·) = true) {c : Char} (h : P c = true) : isLineBreak c = false := by
  by_contra hbreak
  rw [Bool.not_eq_false] at hbreak
  have hmem : c ∈ ['\n', '\x0b', '\x0c', '\r', '\x1c', '\x1d', '\x1e', '\u0085', '\u2028', '\u2029'] := by
    have hnumber : c.toNat ∈ [10, 11, 12, 13, 28, 29, 30, 0x85, 0x2028, 0x2029] := by
      simp only [isLineBreak, Bool.or_eq_true, Bool.and_eq_true, decide_eq_true_eq, beq_iff_eq] at hbreak
      simp only [List.mem_cons, List.not_mem_nil, or_false]
      omega
    have hchar := List.mem_map_of_mem (f := Char.ofNat) hnumber
    rw [Char.ofNat_toNat] at hchar
    exact hchar
  have hout := List.all_eq_true.mp hP c hmem
  rw [h] at hout
  cases hout

/-- The type of one value stands on one line. -/
theorem feedLined_literalType (v : Value) : FeedLined (literalType v).toList := by
  rcases literalType_cases v with hliteral | ⟨text, htext⟩
  · exact feedLined_of_forall fun c hc => isLineBreak_eq_false_of_all (by decide) (hliteral c hc)
  · rw [htext]
    exact feedLined_quote text

/-- A primitive type stands on one line. -/
theorem feedLined_primitiveType (name : String) : FeedLined (primitiveType name).toList := by
  have hall : ∀ entry ∈ primitiveTypes, (entry.2.toList.all fun c => !isLineBreak c || c == '\n') = true := by
    decide
  rcases primitiveType_cases name with heq | ⟨entry, hmem, heq⟩
  · rw [heq]
    exact feedLined_of_all (by decide)
  · rw [heq]
    exact feedLined_of_all (hall entry hmem)

/-- A property key stands on one line, or ends with the line feed behind an identifier. -/
theorem feedLined_propertyKey (name : String) : FeedLined (propertyKey name).toList := by
  have hidentifier : ∀ cs, isIdentifier cs = true → FeedLined cs := fun cs hcs =>
    feedLined_of_forall fun _ hc => isLineBreak_eq_false_of_all (by decide) (isIdentifierPart_of_mem hcs hc)
  rw [propertyKey]
  split
  · next hbare =>
      rcases isBareKey_iff_append.mp hbare with hname | ⟨identifier, hfront, hname⟩
      · exact hidentifier _ hname
      · rw [hname]
        exact feedLined_append_iff.mpr ⟨hidentifier _ hfront, feedLined_of_all rfl⟩
  · exact feedLined_quote name

/-- A comment ends lines with line feeds if its margin does, whatever ends the lines of its text. -/
theorem feedLined_comment (text : String) {margin : String} (hmargin : FeedLined margin.toList) :
    FeedLined (comment text margin).toList := by
  have hlines : ∀ line ∈ commentLines text, FeedLined line := fun line hline =>
    feedLined_of_forall fun _ hc => Chars.isLineBreak_of_mem_lines hline hc
  have hstarred : ∀ line ∈ commentLines text, FeedLined (starredLine margin.toList line) := by
    intro line hline
    have hwhole : FeedLined (margin.toList ++ " * ".toList ++ line) := by
      simp only [feedLined_append_iff]
      exact ⟨⟨hmargin, feedLined_of_all (by decide)⟩, hlines line hline⟩
    rw [starredLine, feedLined_append_iff]
    exact ⟨hwhole.subset (Chars.stripRight_prefix _).subset, feedLined_of_all rfl⟩
  rw [comment]
  split
  · exact feedLined_of_all rfl
  · split
    · next line heq =>
        simp only [String.toList_append, String.toList_ofList, feedLined_append_iff]
        refine ⟨⟨⟨hmargin, feedLined_of_all (by decide)⟩, hlines line ?_⟩, feedLined_of_all (by decide)⟩
        rw [heq]
        exact List.mem_cons_self
    · simp only [String.toList_append, String.toList_ofList, feedLined_append_iff]
      exact ⟨⟨⟨⟨hmargin, feedLined_of_all (by decide)⟩, feedLined_flatMap hstarred⟩, hmargin⟩,
        feedLined_of_all (by decide)⟩

/-! ## Types -/

/-- A union of types ends lines as they do. -/
theorem feedLined_union {types : List String} (h : ∀ type ∈ types, FeedLined type.toList) :
    FeedLined (union types).toList := by
  rw [union]
  split
  · exact feedLined_of_all (by decide)
  · exact feedLined_join (feedLined_of_all (by decide)) fun type htype => h type (List.mem_eraseDups.mp htype)

/-- An operand ends lines as the type does. -/
theorem feedLined_operand {type : String} (h : FeedLined type.toList) : FeedLined (operand type).toList := by
  rw [operand]
  split
  · simp only [String.toList_append, feedLined_append_iff]
    exact ⟨⟨feedLined_of_all (by decide), h⟩, feedLined_of_all (by decide)⟩
  · exact h

/-- An intersection of types ends lines as they do. -/
theorem feedLined_intersection {types : List String} (h : ∀ type ∈ types, FeedLined type.toList) :
    FeedLined (intersection types).toList := by
  have hdistinct : ∀ type ∈ distinct types, FeedLined type.toList := fun type htype =>
    h type (List.mem_eraseDups.mp htype)
  rw [intersection]
  split
  · exact feedLined_of_all (by decide)
  · next type heq => exact hdistinct type (by rw [heq]; exact List.mem_cons_self)
  · refine feedLined_join (feedLined_of_all (by decide)) fun text htext => ?_
    obtain ⟨type, htype, rfl⟩ := List.mem_map.mp htext
    exact feedLined_operand (hdistinct type htype)

namespace Printer

variable {p : Printer}

/-- A margin ends lines as one level of it does. -/
theorem feedLined_margin (hindent : FeedLined p.indent.toList) (depth : Nat) :
    FeedLined (p.margin depth).toList := by
  rw [margin, String.toList_ofList]
  intro c hc
  obtain ⟨cs, hcs, hc⟩ := List.mem_flatten.mp hc
  rw [List.eq_of_mem_replicate hcs] at hc
  exact hindent c hc

/-- The line of a property ends lines as its type does. -/
theorem feedLined_member (hindent : FeedLined p.indent.toList) {type : String} (htype : FeedLined type.toList)
    (depth : Nat) (required : List String) (name : String) (s : Schema) :
    FeedLined (p.member depth required name s type).toList := by
  have hmargin := feedLined_margin hindent (depth + 1)
  have hlead : FeedLined
      ((s.description?.map fun text => comment text (p.margin (depth + 1))).getD "").toList := by
    cases s.description? with
    | none => exact feedLined_of_all rfl
    | some text => exact feedLined_comment text hmargin
  have hoptional : FeedLined (if name ∈ required then "" else "?").toList := by
    split <;> exact feedLined_of_all (by decide)
  simp only [member, String.toList_append, feedLined_append_iff]
  exact ⟨⟨⟨⟨⟨⟨hlead, hmargin⟩, feedLined_propertyKey name⟩, hoptional⟩, feedLined_of_all (by decide)⟩, htype⟩,
    feedLined_of_all (by decide)⟩

/-- An object type ends lines as the types in its lines do, and between them. -/
theorem feedLined_objectType (hindent : FeedLined p.indent.toList) {depth : Nat} {lines : List String}
    (h : ∀ line ∈ lines, FeedLined line.toList) : FeedLined (p.objectType depth lines).toList := by
  rw [objectType]
  refine feedLined_join (feedLined_of_all (by decide)) fun line hline => ?_
  rcases List.mem_append.mp hline with hline | hline
  · rcases List.mem_cons.mp hline with rfl | hline
    · exact feedLined_of_all (by decide)
    · exact h line hline
  · rw [List.mem_singleton.mp hline, String.toList_append, feedLined_append_iff]
    exact ⟨feedLined_margin hindent depth, feedLined_of_all (by decide)⟩

/-- The line about undeclared properties ends no line. -/
theorem feedLined_indexLines (hindent : FeedLined p.indent.toList) {depth : Nat}
    {additional : Additional Schema} {line : String} (h : line ∈ p.indexLines depth additional) :
    FeedLined line.toList := by
  rw [eq_of_mem_indexLines h]
  simp only [String.toList_append, feedLined_append_iff]
  exact ⟨⟨⟨feedLined_margin hindent _, feedLined_of_all (by decide)⟩, feedLined_of_all (by decide)⟩,
    feedLined_of_all (by decide)⟩

/-- **The texts whose lines end with line feeds are a closed class.** -/
theorem closed_feedLined (hindent : FeedLined p.indent.toList) :
    p.Closed (fun _ => True) fun text => FeedLined text.toList where
  name := by
    intro type htype
    have hall : ∀ type ∈ [unknownType, "never", "null"],
        (type.toList.all fun c => !isLineBreak c || c == '\n') = true := by decide
    exact feedLined_of_all (hall type htype)
  literal := feedLined_literalType
  primitive := feedLined_primitiveType
  union _ := feedLined_union
  intersection _ := feedLined_intersection
  unknowns := feedLined_of_all (by decide)
  array item h := by
    rw [String.toList_append, feedLined_append_iff]
    exact ⟨feedLined_operand h, feedLined_of_all (by decide)⟩
  record type h := by
    simp only [recordOf, String.toList_append, feedLined_append_iff]
    exact ⟨⟨feedLined_of_all (by decide), h⟩, feedLined_of_all (by decide)⟩
  object depth lines additional h := by
    refine feedLined_objectType hindent fun line hline => ?_
    rcases List.mem_append.mp hline with hline | hline
    · obtain ⟨required, name, s, type, rfl, htype, -⟩ := h line hline
      exact feedLined_member hindent htype depth required name s
    · exact feedLined_indexLines hindent hline

/-- What stands in front of a declaration ends lines with line feeds. -/
theorem feedLined_leadText (s : Schema) : FeedLined (leadText s).toList := by
  rw [leadText]
  cases s.description? with
  | none => exact feedLined_of_all rfl
  | some text => exact feedLined_comment text (feedLined_of_all rfl)

/-- A declaration is the text of the schema at the end of the references at the root. -/
theorem exists_declarationText_of_declaration {name : String} {s : Schema} {text : String}
    (h : p.declaration name s = .ok text) : ∃ bound chain t type,
      p.expressionWith (p.referenceExpression bound chain) 0 (declaredPart t) = .ok type ∧
      text = declarationText name t type := by
  obtain ⟨bound, chain, t, -, ht⟩ := exists_declareWith_of_declareFrom h
  rw [declareWith_eq] at ht
  obtain ⟨type, htype, ht⟩ := bind_eq_ok_iff.mp ht
  cases ht
  exact ⟨bound, chain, t, type, htype, rfl⟩

/-- **Only line feeds end lines in a declaration**, whatever the descriptions, names and values of the schema
hold. -/
theorem feedLined_declaration (hindent : FeedLined p.indent.toList) {name : String} (hname : FeedLined name.toList)
    {s : Schema} {text : String} (h : p.declaration name s = .ok text) : FeedLined text.toList := by
  obtain ⟨bound, chain, t, type, htype, rfl⟩ := exists_declarationText_of_declaration h
  have hwritten := (closed_feedLined hindent).expressionWith_referenceExpression (fun _ _ => trivial) htype
  have hwords : ∀ words ∈ ["export interface ", " ", "\n", "export type ", " = ", ";\n"],
      (words.toList.all fun c => !isLineBreak c || c == '\n') = true := by decide
  unfold declarationText
  split
  · simp only [interfaceText, String.toList_append, feedLined_append_iff]
    exact ⟨⟨⟨⟨⟨feedLined_leadText t, feedLined_of_all (hwords _ (by decide))⟩, hname⟩,
      feedLined_of_all (hwords _ (by decide))⟩, hwritten⟩, feedLined_of_all (hwords _ (by decide))⟩
  · simp only [aliasText, String.toList_append, feedLined_append_iff]
    exact ⟨⟨⟨⟨⟨feedLined_leadText t, feedLined_of_all (hwords _ (by decide))⟩, hname⟩,
      feedLined_of_all (hwords _ (by decide))⟩, hwritten⟩, feedLined_of_all (hwords _ (by decide))⟩

/-! ## Where a declaration begins and ends -/

/-- What stands in front of a declaration is nothing, or begins with a slash. -/
theorem leadText_cases (s : Schema) : leadText s = "" ∨ ∃ rest, (leadText s).toList = '/' :: rest := by
  rw [leadText]
  cases s.description? with
  | none => exact .inl rfl
  | some text =>
      cases hempty : text.isEmpty with
      | true => exact .inl (by rw [Option.map_some, Option.getD_some, comment, if_pos hempty])
      | false =>
          have hmargin : Text.isBlank "" = true := rfl
          obtain ⟨body, -, -, heq⟩ := exists_comment_eq hempty hmargin
          exact .inr ⟨_, heq⟩

/-- A declaration begins with a character that is not blank. -/
theorem exists_first_of_declaration {name : String} {s : Schema} {text : String}
    (h : p.declaration name s = .ok text) : ∃ c rest, text.toList = c :: rest ∧ isBlank c = false := by
  obtain ⟨bound, chain, t, type, -, rfl⟩ := exists_declarationText_of_declaration h
  have hexport : ∃ rest, (declarationText name t type).toList = (leadText t).toList ++ 'e' :: rest := by
    unfold declarationText
    split
    · exact ⟨_, by simp only [interfaceText, String.toList_append, List.append_assoc]; rfl⟩
    · exact ⟨_, by simp only [aliasText, String.toList_append, List.append_assoc]; rfl⟩
  obtain ⟨rest, hrest⟩ := hexport
  rw [hrest]
  rcases leadText_cases t with hnone | ⟨lead, hlead⟩
  · rw [hnone]
    exact ⟨'e', rest, rfl, rfl⟩
  · rw [hlead]
    exact ⟨'/', _, rfl, rfl⟩

/-- A declaration ends with a character that is not blank and a line feed. -/
theorem exists_last_of_declaration {name : String} {s : Schema} {text : String}
    (h : p.declaration name s = .ok text) :
    ∃ front c, text.toList = front ++ [c] ++ ['\n'] ∧ isBlank c = false := by
  obtain ⟨bound, chain, t, type, htype, rfl⟩ := exists_declarationText_of_declaration h
  unfold declarationText
  split
  -- the bracket at the end of an object type, or the semicolon behind an alias
  · next hkind =>
      obtain ⟨lines, rfl⟩ := exists_objectType_of_isInterface hkind htype
      obtain ⟨front, hfront⟩ : ∃ front, (p.objectType 0 lines).toList = front ++ ['\x7d'] :=
        ⟨_, toList_objectType p 0 lines⟩
      refine ⟨(leadText t ++ "export interface " ++ name ++ " ").toList ++ front, '\x7d', ?_, rfl⟩
      simp [interfaceText, String.toList_append, hfront]
  · refine ⟨(leadText t ++ "export type " ++ name ++ " = " ++ type).toList, ';', ?_, rfl⟩
    simp [aliasText, String.toList_append]

end Printer

end TypeScript

end ServiceBindings
