import ServiceBindings.Proofs.TypeScript.Rooted

/-! # What a declaration declares

A text **declares** a name (`Declares`) if a line of its outline begins with the keywords of a declaration
and the name: what stands in comments, in string literals and in brackets does not count.

Whatever schema it is made from, a declaration is read to its end and has exactly one such line
(`Printer.isDeclaration_of_declaration`), so that texts that are declarations one after the other declare
what each of them does (`IsDeclaration.declares_append_iff_line`). -/

namespace ServiceBindings

namespace TypeScript

/-! ## Declared names -/

/-- What the line of a declaration begins with. -/
def headers (name : String) : List String :=
  ["export interface " ++ name ++ " ", "export type " ++ name ++ " = "]

/-- The lines of a text outside all comments, string literals and brackets. -/
def outlineLines (text : String) : List (List Char) :=
  Chars.splitWhere (· == '\n') (outline (.code []) text.toList)

/-- A name is declared in a text. -/
def Declares (text name : String) : Prop :=
  ∃ line ∈ outlineLines text, ∃ header ∈ headers name, header.toList <+: line

instance (text name : String) : Decidable (Declares text name) :=
  inferInstanceAs (Decidable (∃ line ∈ _, ∃ header ∈ _, _))

/-- A text that is one declaration of a name: it is read to its end, and its outline is one line with the
beginning of a declaration, perhaps behind the line feed of a comment. -/
structure IsDeclaration (name text : String) : Prop where
  /-- The reader is back in code. -/
  closed : read (.code []) text.toList = .code []
  /-- The outline is one line. -/
  exists_line : ∃ lead line, outline (.code []) text.toList = lead ++ line ++ ['\n'] ∧
    (lead = [] ∨ lead = ['\n']) ∧ '\n' ∉ line ∧ ∃ header ∈ headers name, header.toList <+: line

/-! ## Lines -/

/-- A line ends where its line feed stands. -/
theorem splitWhere_append_lineFeed {line : List Char} (h : '\n' ∉ line) (rest : List Char) :
    Chars.splitWhere (· == '\n') (line ++ '\n' :: rest)
      = line :: Chars.splitWhere (· == '\n') rest := by
  have hfree : ∀ c ∈ line, (c == '\n') = false := fun c hc => beq_false_of_ne (ne_of_mem_of_not_mem hc h)
  exact Chars.splitWhere_append_cons hfree (by decide) rest

/-- No declaration begins with an empty line. -/
theorem not_header_nil {name header : String} (h : header ∈ headers name) : ¬ header.toList <+: [] := by
  intro hnil
  have hlength := congrArg List.length (List.prefix_nil.mp hnil)
  simp only [headers, List.mem_cons, List.not_mem_nil, or_false] at h
  rcases h with rfl | rfl <;> simp [String.toList_append] at hlength

/-- The empty text declares nothing. -/
theorem not_declares_empty (name : String) : ¬ Declares "" name := by
  rintro ⟨line, hline, header, hheader, hbegins⟩
  have hnil : line = [] := List.mem_singleton.mp hline
  rw [hnil] at hbegins
  exact not_header_nil hheader hbegins

namespace IsDeclaration

variable {name text : String}

/-- What a declaration and a text behind it declare: the line of the declaration decides, or the text. -/
theorem declares_append_iff_line (h : IsDeclaration name text) : ∃ line,
    (∃ header ∈ headers name, header.toList <+: line) ∧ ∀ rest other, Declares (text ++ rest) other ↔
      (∃ header ∈ headers other, header.toList <+: line) ∨ Declares rest other := by
  obtain ⟨lead, line, houtline, hlead, hfeed, hheader⟩ := h.exists_line
  refine ⟨line, hheader, fun rest other => ?_⟩
  -- the line stands in front of the lines of the rest, perhaps behind an empty one
  have hlines : outlineLines (text ++ rest)
      = (if lead = [] then [] else [[]]) ++ line :: outlineLines rest := by
    rw [outlineLines, String.toList_append, outline_append, h.closed, houtline, List.append_assoc,
      List.append_assoc, List.singleton_append]
    rcases hlead with rfl | rfl
    · exact splitWhere_append_lineFeed hfeed _
    · have hempty : '\n' ∉ ([] : List Char) := List.not_mem_nil
      have hfirst := splitWhere_append_lineFeed hempty (line ++ '\n' :: outline (.code []) rest.toList)
      rw [List.nil_append] at hfirst
      rw [List.singleton_append, hfirst, splitWhere_append_lineFeed hfeed]
      rfl
  rw [Declares, hlines]
  constructor
  · rintro ⟨l, hl, header, hmem, hbegins⟩
    rcases List.mem_append.mp hl with hl | hl
    · split at hl
      · cases hl
      · rw [List.mem_singleton.mp hl] at hbegins
        exact absurd hbegins (not_header_nil hmem)
    · rcases List.mem_cons.mp hl with rfl | hl
      · exact Or.inl ⟨header, hmem, hbegins⟩
      · exact Or.inr ⟨l, hl, header, hmem, hbegins⟩
  · rintro (⟨header, hmem, hbegins⟩ | ⟨l, hl, hheader⟩)
    · exact ⟨line, List.mem_append_right _ List.mem_cons_self, header, hmem, hbegins⟩
    · exact ⟨l, List.mem_append_right _ (List.mem_cons_of_mem _ hl), hheader⟩

end IsDeclaration

/-! ## The text of a declaration -/

/-- The description in front of a declaration is read to its end, and its outline is a line feed, if it is
there at all. -/
theorem read_lead (description : Option String) :
    read (.code []) ((description.map fun text => comment text "").getD "").toList = .code [] ∧
    (outline (.code []) ((description.map fun text => comment text "").getD "").toList = [] ∨
      outline (.code []) ((description.map fun text => comment text "").getD "").toList = ['\n']) := by
  cases description with
  | none => exact ⟨rfl, Or.inl rfl⟩
  | some text =>
      have hmargin : Text.isBlank "" = true := rfl
      refine ⟨read_comment text hmargin [], ?_⟩
      cases htext : text.isEmpty with
      | true =>
          refine Or.inl ?_
          show outline (.code []) (comment text "").toList = []
          rw [comment, if_pos htext]
          rfl
      | false => exact Or.inr (outline_comment htext)

/-- A character of a header is one of the name, or of the words around it. -/
theorem mem_name_or_mem_words {name header : String} (hheader : header ∈ headers name) {c : Char}
    (hc : c ∈ header.toList) : c ∈ name.toList ∨ c ∈ "export interface type = ".toList := by
  have hwords : ∀ words ∈ ["export interface ", "export type ", " ", " = "], ∀ c ∈ words.toList,
      c ∈ "export interface type = ".toList := by
    intro words hwords c hc
    have hall : (["export interface ", "export type ", " ", " = "].all fun words =>
        words.toList.all fun c => "export interface type = ".toList.contains c) = true := rfl
    exact List.contains_iff_mem.mp (List.all_eq_true.mp (List.all_eq_true.mp hall words hwords) c hc)
  simp only [headers, List.mem_cons, List.not_mem_nil, or_false] at hheader
  rcases hheader with rfl | rfl
  · rw [String.toList_append, String.toList_append, List.mem_append, List.mem_append] at hc
    rcases hc with (hc | hc) | hc
    · exact Or.inr (hwords _ (by decide) c hc)
    · exact Or.inl hc
    · exact Or.inr (hwords _ (by decide) c hc)
  · rw [String.toList_append, String.toList_append, List.mem_append, List.mem_append] at hc
    rcases hc with (hc | hc) | hc
    · exact Or.inr (hwords _ (by decide) c hc)
    · exact Or.inl hc
    · exact Or.inr (hwords _ (by decide) c hc)

/-- A header of a neutral name is neutral. -/
theorem all_isNeutral_header {name header : String} (hname : name.toList.all isNeutral = true)
    (hheader : header ∈ headers name) : header.toList.all isNeutral = true := by
  have hwords : ∀ c ∈ "export interface type = ".toList, isNeutral c = true := List.all_eq_true.mp rfl
  rw [List.all_eq_true] at hname ⊢
  exact fun c hc => (mem_name_or_mem_words hheader hc).elim (hname c) (hwords c)

/-- A comment, a header, woven text and a line feed are a declaration. -/
theorem isDeclaration_of_eq {name header text : String} (description : Option String)
    {X : String → Prop} {body : List Char} (hname : name.toList.all isNeutral = true)
    (hheader : header ∈ headers name) (hbody : Weaves X false body)
    (htext : text.toList = ((description.map fun text => comment text "").getD "").toList ++
      header.toList ++ body ++ ['\n']) : IsDeclaration name text := by
  obtain ⟨hread, hlead⟩ := read_lead description
  have hneutral := List.all_eq_true.mp (all_isNeutral_header hname hheader)
  have hwoven : Woven X false false header.toList := woven_of_isNeutral hneutral
  obtain ⟨operator, hbody⟩ := hbody
  have hline := hwoven.append hbody
  have hfeed : (Cursor.code []).step '\n' = .code [] := rfl
  constructor
  · rw [htext, List.append_assoc _ header.toList, read_append, read_append, hread, hline.read_code]
    rfl
  -- no line feed stands in the outline of woven text, so header and body share a line
  · refine ⟨_, outline (.code []) (header.toList ++ body), ?_, hlead, ?_, header, hheader, ?_⟩
    · rw [htext, List.append_assoc _ header.toList, outline_append, outline_append, read_append, hread,
        hline.read_code]
      rfl
    · exact fun hmem => (hline.of_mem_outline hmem).2 rfl
    · rw [outline_append, outline_of_isPlain]
      · exact List.prefix_append _ _
      · exact fun c hc => isPlain_of_isNeutral (hneutral c hc)

namespace Printer

variable {p : Printer}

/-- A declaration writes the comments of its schema. -/
theorem Comments.of_declaredPart {s : Schema} {text : String} (h : p.Comments (declaredPart s) text) :
    p.Comments s text := by
  rcases h with h | ⟨document, q, u, hdocument, ⟨r, hr, hreach⟩, hat, h⟩
  · cases s with
    | object properties required additional annotations =>
        refine .inl (Schema.hasComment_iff_child.mpr ?_)
        rcases Schema.hasComment_iff_child.mp h with ⟨c, hprop, hdesc⟩ | ⟨c, hc, hcomment⟩
        · cases hprop with
          | declared hmem => exact .inl ⟨c, .declared hmem, hdesc⟩
        · exact .inr ⟨c, Schema.child_object_iff.mpr (Schema.child_object_iff.mp hc), hcomment⟩
    | _ => exact .inl h
  · exact .inr ⟨document, q, u, hdocument, ⟨r, mentions_declaredPart_iff.mp hr, hreach⟩, hat, h⟩

/-- **The parts of a declaration**: the comment on its schema, a header of its name, a woven text and a
line feed, if the descriptions of properties may be written as comments. -/
theorem exists_parts_of_declareWith (hindent : Text.isBlank p.indent = true) {X : String → Prop}
    {name : String} {bound : Nat} {chain : List String} {s : Schema}
    (hcomments : ∀ x, p.Comments s x → X x) {text : String}
    (h : p.declareWith (p.referenceExpression bound chain) name s = .ok text) :
    ∃ header ∈ headers name, ∃ body, Weaves X false body ∧ text.toList =
      ((s.description?.map fun text => comment text "").getD "").toList ++ header.toList ++ body ++
        ['\n'] := by
  rw [declareWith_eq] at h
  obtain ⟨type, htype, h⟩ := bind_eq_ok_iff.mp h
  cases h
  have hbody := weaves_expressionWith_referenceExpression hindent
    (fun x hx => hcomments x hx.of_declaredPart) htype
  unfold declarationText
  split
  · refine ⟨_, List.mem_cons_self, _, hbody, ?_⟩
    simp [interfaceText, leadText, String.toList_append, List.append_assoc]
  · have hend : Weaves X false [';'] := weaves_of_all_isNeutral (by decide)
    refine ⟨_, List.mem_cons_of_mem _ List.mem_cons_self, _, hbody.append hend, ?_⟩
    simp [aliasText, leadText, String.toList_append, List.append_assoc]

/-- A declaration is that of the schema at the end of the references at the root. -/
theorem exists_declareWith_of_declareFrom {name : String} {bound : Nat} {chain : List String}
    {s : Schema} {text : String} (h : p.declareFrom name bound chain s = .ok text) :
    ∃ bound chain t, p.Reaches s t ∧
      p.declareWith (p.referenceExpression bound chain) name t = .ok text := by
  obtain ⟨bound', chain', t, hend, htext, -⟩ := exists_endsAt_of_declareFrom h
  exact ⟨bound', chain', t, hend.reaches, htext⟩

/-- **A declaration declares its name once**, whatever schema it is made from. -/
theorem isDeclaration_of_declaration (hindent : Text.isBlank p.indent = true) {name : String}
    (hname : name.toList.all isNeutral = true) {s : Schema} {text : String}
    (h : p.declaration name s = .ok text) : IsDeclaration name text := by
  obtain ⟨bound, chain, t, -, ht⟩ := exists_declareWith_of_declareFrom h
  obtain ⟨header, hheader, body, hbody, htext⟩ :=
    exists_parts_of_declareWith (X := fun _ => True) hindent (fun _ _ => trivial) ht
  exact isDeclaration_of_eq t.description? hname hheader hbody htext

end Printer

end TypeScript

end ServiceBindings
