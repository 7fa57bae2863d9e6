import ServiceBindings.Module.Types
import ServiceBindings.Proofs.Operation.Building
import ServiceBindings.Proofs.TypeScript.LineFeeds

/-! # The declarations in the types module

The types module holds the declarations of a namespace trimmed and under a margin, which is put in front of
their **lines**: where any of the characters that end a line stands, the text is cut, and a line feed is put
there. Margins can be taken off again line by line (`Chars.withoutMargin?`).

A text is restored in this way if it is a block (`IsBlock`): nothing is trimmed but the line feed at its end, and
only line feeds end its lines (`IsBlock.exists_indent_eq`). The declarations of an operation are one, so **the
types module preserves them** (`OperationContext.exists_moduleText_eq`). -/

namespace ServiceBindings

namespace Chars

/-! ## Lines that line feeds end -/

/-- What a line begins with, unless it is a carriage return, which may belong to a line feed behind it. -/
theorem lines_cons {c : Char} (h : c ≠ '\r') (rest : List Char) :
    lines (c :: rest) = if isLineBreak c then [] :: lines rest else consLine c (lines rest) := by
  rw [lines]
  intro _ hc
  exact absurd hc h

/-- **A text in which only line feeds end lines is cut at its line feeds.** -/
theorem lines_append_lineFeed {cs : List Char} (h : TypeScript.FeedLined cs) :
    lines (cs ++ ['\n']) = splitWhere (· == '\n') cs := by
  induction cs with
  | nil => rfl
  | cons c rest ih =>
      have hrest := ih fun d hd => h d (List.mem_cons_of_mem _ hd)
      have hfeed := h c List.mem_cons_self
      have hreturn : c ≠ '\r' := by
        rintro rfl
        exact absurd (hfeed rfl) (by decide)
      rw [List.cons_append, lines_cons hreturn, hrest, splitWhere_cons]
      by_cases hbreak : isLineBreak c = true
      · rw [if_pos hbreak, if_pos (by rw [hfeed hbreak]; rfl)]
      · have hc : ¬ (c == '\n') = true := fun hc => hbreak (by rw [beq_iff_eq.mp hc]; rfl)
        obtain ⟨piece, pieces, hpieces⟩ := List.exists_cons_of_ne_nil (splitWhere_ne_nil (· == '\n') rest)
        rw [if_neg hbreak, if_neg hc, hpieces]
        rfl

/-! ## Margins -/

/-- A line without the margin in front of it, if there is one. -/
def withoutMargin (margin line : List Char) : List Char :=
  if margin.isPrefixOf line then line.drop margin.length else line

/-- A line behind a margin is what is left without it. -/
theorem withoutMargin_append (margin line : List Char) : withoutMargin margin (margin ++ line) = line := by
  have hbegins : margin.isPrefixOf (margin ++ line) = true :=
    List.isPrefixOf_iff_prefix.mpr (List.prefix_append _ _)
  rw [withoutMargin, if_pos hbegins, List.drop_left]

/-- Nothing is left of the empty line. -/
theorem withoutMargin_nil (margin : List Char) : withoutMargin margin [] = [] := by
  rw [withoutMargin, List.drop_nil, ite_self]

/-- **Taking margins off undoes indenting.** -/
theorem map_withoutMargin_indentLines (margin : List Char) (pieces : List (List Char)) :
    (indentLines margin pieces).map (withoutMargin margin) = pieces := by
  cases pieces with
  | nil => rfl
  | cons first rest =>
      have hrest : ∀ piece : List Char,
          withoutMargin margin (if piece.isEmpty then piece else margin ++ piece) = piece := by
        intro piece
        split
        · next hempty => rw [List.isEmpty_iff.mp hempty, withoutMargin_nil]
        · exact withoutMargin_append margin piece
      rw [indentLines, List.map_cons, withoutMargin_append, List.map_map]
      exact congrArg _ (List.map_id'' hrest rest)

/-- An indented line is empty, or the margin stands in front of one of the lines. -/
theorem eq_nil_or_exists_of_mem_indentLines {margin line : List Char} {pieces : List (List Char)}
    (h : line ∈ indentLines margin pieces) : line = [] ∨ ∃ piece ∈ pieces, line = margin ++ piece := by
  cases pieces with
  | nil => cases h
  | cons first rest =>
      rcases List.mem_cons.mp h with rfl | h
      · exact .inr ⟨first, List.mem_cons_self, rfl⟩
      · obtain ⟨piece, hpiece, rfl⟩ := List.mem_map.mp h
        split
        · next hempty => exact .inl (List.isEmpty_iff.mp hempty)
        · exact .inr ⟨piece, List.mem_cons_of_mem _ hpiece, rfl⟩

end Chars

/-- A line without the margin in front of it, if there is one. -/
def Text.withoutMargin (margin line : String) : String := .ofList (Chars.withoutMargin margin.toList line.toList)

open TypeScript

/-! ## Blocks -/

/-- A text is a block of lines: it begins with a character that is not blank, ends with such a character and a
line feed, and only line feeds end lines in it. -/
structure IsBlock (text : String) : Prop where
  /-- The beginning. -/
  exists_first : ∃ c rest, text.toList = c :: rest ∧ isBlank c = false
  /-- The end. -/
  exists_last : ∃ front c, text.toList = front ++ [c] ++ ['\n'] ∧ isBlank c = false
  /-- The ends of the lines. -/
  feedLined : FeedLined text.toList

namespace IsBlock

variable {text : String}

/-- A block behind a block. -/
theorem append {further : String} (h : IsBlock text) (hfurther : IsBlock further) : IsBlock (text ++ further) := by
  obtain ⟨first, rest, hfirst, hnotBlank⟩ := h.exists_first
  obtain ⟨front, last, hlast, hnotBlank'⟩ := hfurther.exists_last
  refine ⟨⟨first, rest ++ further.toList, ?_, hnotBlank⟩, ⟨text.toList ++ front, last, ?_, hnotBlank'⟩, ?_⟩
  · rw [String.toList_append, hfirst, List.cons_append]
  · rw [String.toList_append, hlast, List.append_assoc, List.append_assoc, List.append_assoc]
  · rw [String.toList_append, feedLined_append_iff]
    exact ⟨h.feedLined, hfurther.feedLined⟩

/-- **A block is trimmed by the line feed at its end.** -/
theorem strip_eq (h : IsBlock text) : text.toList = (Text.strip text).toList ++ ['\n'] := by
  obtain ⟨first, rest, hfirst, hnotBlank⟩ := h.exists_first
  obtain ⟨front, last, hlast, hnotBlank'⟩ := h.exists_last
  have hbegin : text.toList.dropWhile isBlank = text.toList := by
    rw [hfirst, List.dropWhile_cons, if_neg (by rw [hnotBlank]; exact Bool.false_ne_true)]
  have hfeed : isBlank '\n' = true := rfl
  rw [Text.toList_strip, Chars.strip, hbegin, hlast, Chars.stripRight_append_of_isBlank hfeed,
    Chars.stripRight_append_of_not_isBlank hnotBlank']

/-- **A block is restored from its indented lines**: none of them holds a line feed, each one is empty or stands
behind the margin, and without margins they are the lines of the block. -/
theorem exists_indent_eq (h : IsBlock text) {margin : String} (hmargin : '\n' ∉ margin.toList) :
    ∃ lines : List String, Text.indent margin (Text.strip text) = Text.join "\n" lines ∧
      (∀ line ∈ lines, '\n' ∉ line.toList ∧ (line = "" ∨ margin.toList <+: line.toList)) ∧
      text = Text.join "\n" (lines.map (Text.withoutMargin margin)) ++ "\n" := by
  have hstrip := h.strip_eq
  have hfeedLined : FeedLined (Text.strip text).toList := by
    refine h.feedLined.subset ?_
    rw [hstrip]
    exact List.subset_append_left _ _
  have hindent : Text.indent margin (Text.strip text) = .ofList (Chars.join ['\n']
      (Chars.indentLines margin.toList (Chars.splitWhere (· == '\n') (Text.strip text).toList))) := by
    rw [Text.indent, Chars.indent, Chars.lines_append_lineFeed hfeedLined]
  refine ⟨_, hindent.trans (Text.ofList_join _ _), fun line hline => ?_, ?_⟩
  · obtain ⟨chars, hchars, rfl⟩ := List.mem_map.mp hline
    rw [String.toList_ofList]
    rcases Chars.eq_nil_or_exists_of_mem_indentLines hchars with rfl | ⟨piece, hpiece, rfl⟩
    · exact ⟨List.not_mem_nil, .inl rfl⟩
    · refine ⟨fun hfeed => ?_, .inr (List.prefix_append _ _)⟩
      rcases List.mem_append.mp hfeed with hfeed | hfeed
      · exact hmargin hfeed
      · have hno := (Chars.mem_of_mem_splitWhere hpiece hfeed).2
        cases hno
  -- without margins the lines are the pieces of the trimmed text, which they make up again
  · have hlines : ∀ pieces : List (List Char), (pieces.map String.ofList).map (Text.withoutMargin margin)
        = (pieces.map (Chars.withoutMargin margin.toList)).map String.ofList := by
      intro pieces
      simp [Text.withoutMargin]
    have hjoin := Text.ofList_join ['\n'] (Chars.splitWhere (· == '\n') (Text.strip text).toList)
    rw [Chars.join_splitWhere, String.ofList_toList] at hjoin
    rw [hlines, Chars.map_withoutMargin_indentLines]
    apply String.toList_injective
    rw [hstrip, String.toList_append]
    exact congrArg (·.toList ++ ['\n']) hjoin

end IsBlock

/-! ## The declarations of an operation -/

namespace OperationContext

variable {c : OperationContext} {operation : Operation} {f : ServiceFunction} {types : TypeScope}

/-- A text of a namespace is a block unless it is empty. -/
theorem IsTextIf.isBlock {member : ScopeMember} {found : Prop} {text : String}
    (h : c.IsTextIf member found text) : text = "" ∨ IsBlock text := by
  rcases h with ⟨-, s, hs⟩ | ⟨-, hempty⟩
  · have hindent : FeedLined c.printer.indent.toList := by
      show FeedLined "  ".toList
      exact feedLined_of_all (by decide)
    have hname : FeedLined member.name.toList := by
      cases member <;> exact feedLined_of_all (by decide)
    exact .inr ⟨Printer.exists_first_of_declaration hs, Printer.exists_last_of_declaration hs,
      Printer.feedLined_declaration hindent hname hs⟩
  · exact .inl hempty

/-- The declarations of a namespace are a block unless there are none. -/
theorem Built.isBlock (h : c.Built operation f types) (hne : types.text ≠ "") : IsBlock types.text := by
  have happend : ∀ {text further : String}, text = "" ∨ IsBlock text → further = "" ∨ IsBlock further →
      text ++ further = "" ∨ IsBlock (text ++ further) := by
    rintro text further (rfl | htext) (rfl | hfurther)
    · exact .inl rfl
    · exact .inr (by rwa [String.empty_append])
    · exact .inr (by rwa [String.append_empty])
    · exact .inr (htext.append hfurther)
  exact (happend (happend h.isTextIf_params.isBlock h.isTextIf_body.isBlock)
    h.isTextIf_response.isBlock).resolve_left hne

/-- **The types module preserves the declarations of an operation**: between the braces of its namespace stand the
lines of the declarations with a margin, also in the module of all namespaces. -/
theorem exists_moduleText_eq (h : c.build operation = .ok (f, types)) (hne : types.text ≠ "") :
    ∃ lines : List String,
      types.moduleText = Documentation.ofScope types ++ "export namespace " ++ types.name ++ " \x7b\n" ++
        Text.join "\n" lines ++ "\n\x7d\n\n" ∧
      (∀ scopes, types ∈ scopes → ∃ before after, typesModule .standard scopes =
        before ++ (Documentation.ofScope types ++ "export namespace " ++ types.name ++ " \x7b\n" ++
          Text.join "\n" lines ++ "\n\x7d\n\n") ++ after) ∧
      (∀ line ∈ lines, '\n' ∉ line.toList ∧ (line = "" ∨ "  ".toList <+: line.toList)) ∧
      types.text = Text.join "\n" (lines.map (Text.withoutMargin "  ")) ++ "\n" := by
  have hblock := (built_of_build h).isBlock hne
  have hmargin : '\n' ∉ "  ".toList := by decide
  obtain ⟨lines, hindent, hlines, htext⟩ := hblock.exists_indent_eq hmargin
  have hmodule : types.moduleText = Documentation.ofScope types ++ "export namespace " ++ types.name ++
      " \x7b\n" ++ Text.join "\n" lines ++ "\n\x7d\n\n" := by
    have hempty : types.text.isEmpty = false := by simpa using hne
    have hend : "\n\x7d\n\n" = "\n" ++ "\x7d\n\n" := rfl
    rw [TypeScope.moduleText, TypeScope.bodyLines, hempty, if_neg Bool.false_ne_true, hindent, hend]
    simp only [String.append_assoc]
  exact ⟨lines, hmodule, fun scopes hmem => hmodule ▸ exists_typesModule_eq hmem, hlines, htext⟩

/-- An operation with a body: its one property has a line feed behind its name, and a description of two lines
with the line separator between them. -/
def postNote : Operation :=
  ⟨"/notes", "post",
    [(.text "requestBody", .map [(.text "content", .map [(.text "application/json", .map [(.text "schema",
      .map [(.text "type", .text "object"), (.text "properties", .map [(.text "a\n",
        .map [(.text "type", .text "string"), (.text "description", .text "one\u2028two")])])])])])])]⟩

/-- The declaration of the body is preserved. -/
theorem exists_moduleText_eq_postNote : ∃ f types,
    OperationContext.build ⟨.null, "", []⟩ postNote = .ok (f, types) ∧
    types.text = "export interface IBody \x7b\n  /**\n   * one\n   * two\n   */\n  a\n?: string;\n\x7d\n" ∧
    ∃ lines : List String,
      types.moduleText = Documentation.ofScope types ++ "export namespace " ++ types.name ++ " \x7b\n" ++
        Text.join "\n" lines ++ "\n\x7d\n\n" ∧
      (∀ scopes, types ∈ scopes → ∃ before after, typesModule .standard scopes =
        before ++ (Documentation.ofScope types ++ "export namespace " ++ types.name ++ " \x7b\n" ++
          Text.join "\n" lines ++ "\n\x7d\n\n") ++ after) ∧
      (∀ line ∈ lines, '\n' ∉ line.toList ∧ (line = "" ∨ "  ".toList <+: line.toList)) ∧
      types.text = Text.join "\n" (lines.map (Text.withoutMargin "  ")) ++ "\n" := by
  have hbuild : OperationContext.build ⟨.null, "", []⟩ postNote = .ok _ := rfl
  exact ⟨_, _, hbuild, by rfl, exists_moduleText_eq hbuild (by decide)⟩

end OperationContext

end ServiceBindings
