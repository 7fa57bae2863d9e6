import ServiceBindings.Bindings
import ServiceBindings.Module.Types
import ServiceBindings.Proofs.TypeScript.Commented

/-! # Documentation blocks

Every item of a generated module stands below a documentation block: a comment that shows, each on a line of
its own, the summary, the tags and the request of an operation. These texts come from the document and may
hold anything. **No text leaves its line, and none ends the comment** (`Documentation.IsBlock`):

* a text is reduced to its words with one space between neighbours, and whatever ends a line is white space
  (`Documentation.isBlank_of_endsLine`);
* end marks are taken apart before the text is cut into words, so no word holds one, and a space keeps a star
  and a slash apart between words as well as behind the star of the line (`Documentation.fits_oneLine`).

Such a text has nothing left to change, so making it safe a second time keeps it
(`Documentation.oneLine_oneLine`). -/

namespace ServiceBindings

namespace Documentation

open TypeScript (EndFree isLineTerminator endFree_neutralize neutralize neutralize_of_endFree)

/-! ## Texts that fit on a line -/

/-- A character ends a line, in a text or in the target language. -/
def EndsLine (c : Char) : Prop := isLineBreak c = true ∨ isLineTerminator c = true

instance (c : Char) : Decidable (EndsLine c) := inferInstanceAs (Decidable (_ ∨ _))

/-- Whatever ends a line is white space. -/
theorem isBlank_of_endsLine {c : Char} (h : EndsLine c) : isBlank c = true := by
  rcases h with hbreak | hterminator
  · simp only [isLineBreak, Bool.or_eq_true, Bool.and_eq_true, decide_eq_true_eq, beq_iff_eq] at hbreak
    simp only [isBlank, Bool.or_eq_true, Bool.and_eq_true, decide_eq_true_eq, beq_iff_eq]
    omega
  · simp only [isLineTerminator, List.mem_cons, List.not_mem_nil, or_false, decide_eq_true_eq] at hterminator
    rcases hterminator with rfl | rfl | rfl | rfl <;> rfl

/-- A text fits on a line of a block: it ends neither the line nor the comment. -/
structure Fits (cs : List Char) : Prop where
  /-- No character ends a line. -/
  not_endsLine : ∀ c ∈ cs, ¬ EndsLine c
  /-- No star stands directly before a slash. -/
  endFree : EndFree cs

/-- Two texts fit on one line with a space between them. -/
theorem Fits.append_space {cs ds : List Char} (hcs : Fits cs) (hds : Fits ds) : Fits (cs ++ ' ' :: ds) := by
  refine ⟨fun c hc => ?_, hcs.endFree.append (hds.endFree.cons (by decide)) (by simp)⟩
  rcases List.mem_append.mp hc with hc | hc
  · exact hcs.not_endsLine c hc
  · rcases List.mem_cons.mp hc with rfl | hc
    · decide
    · exact hds.not_endsLine c hc

/-- Texts fit on one line with spaces between them. -/
theorem fits_join {texts : List (List Char)} (h : ∀ text ∈ texts, Fits text) : Fits (Chars.join [' '] texts) := by
  induction texts with
  | nil => exact ⟨nofun, .nil⟩
  | cons text rest ih =>
      have htext := h text List.mem_cons_self
      have hrest := ih fun text hmem => h text (List.mem_cons_of_mem _ hmem)
      cases rest with
      | nil =>
          rw [Chars.join, List.intercalate_singleton]
          exact htext
      | cons next rest =>
          rw [Chars.join, List.intercalate_cons_cons, List.append_assoc]
          exact htext.append_space hrest

/-- **A text made safe fits on a line**, whatever it holds. -/
theorem fits_oneLine (text : String) : Fits (oneLine text).toList := by
  rw [oneLine, String.toList_ofList, oneLineChars]
  refine fits_join fun word hword => ⟨fun c hc hends => ?_, ?_⟩
  · have hletter := (Chars.isWord_of_mem_words hword).2 c hc
    rw [isBlank_of_endsLine hends] at hletter
    cases hletter
  · exact (endFree_neutralize text.toList).1.isInfix (Chars.isInfix_of_mem_words hword)

/-- **Making a text safe a second time keeps it.** -/
theorem oneLine_oneLine (text : String) : oneLine (oneLine text) = oneLine text := by
  have hwords : Chars.words (Chars.join [' '] (Chars.words (neutralize text.toList)))
      = Chars.words (neutralize text.toList) := Chars.words_join fun _ => Chars.isWord_of_mem_words
  rw [oneLine, oneLineChars, neutralize_of_endFree (fits_oneLine text).endFree]
  rw [oneLine, String.toList_ofList, oneLineChars, hwords]

/-! ## Blocks -/

/-- A text is a comment: of the end marks behind its opening mark, the first is at its very end. -/
def IsComment (cs : List Char) : Prop :=
  ∃ body, cs = '/' :: '*' :: (body ++ ['*', '/']) ∧ EndFree (body ++ ['*'])

/-- The lines of a block, each behind its star. -/
def starred (lines : List String) : String := .join (lines.map fun line => " * " ++ line ++ "\n")

/-- A text is a block with given lines: they stand below each other behind a star, each is one line, and the
comment ends with the last line of the block, not before. -/
structure IsBlock (lines : List String) (block : String) : Prop where
  /-- The lines stand between the marks of the comment. -/
  text_eq : block = "/**\n" ++ starred lines ++ " */\n"
  /-- No line is ended by one of its characters. -/
  not_endsLine : ∀ line ∈ lines, ∀ c ∈ line.toList, ¬ EndsLine c
  /-- The comment ends with the block. -/
  isComment : ∃ comment, block = comment ++ "\n" ∧ IsComment comment.toList

/-- The characters of a line and of those below it. -/
theorem toList_starred_cons (line : String) (rest : List String) : (starred (line :: rest)).toList
    = ' ' :: '*' :: ' ' :: (line.toList ++ '\n' :: (starred rest).toList) := by
  rw [starred, String.toList_join, List.map_cons, List.flatMap_cons, ← String.toList_join, ← starred]
  simp only [String.toList_append, List.append_assoc]
  rfl

/-- The text of one line. -/
theorem starred_singleton (line : String) : starred [line] = " * " ++ line ++ "\n" :=
  String.empty_append

/-- Lines below others. -/
theorem starred_append (lines others : List String) : starred (lines ++ others) = starred lines ++ starred others := by
  apply String.toList_injective
  simp only [starred, List.map_append, String.toList_join, List.flatMap_append, String.toList_append]

/-- Lines that fit hold no end mark, up to the star of the mark that ends the block. -/
theorem endFree_starred {lines : List String} (h : ∀ line ∈ lines, Fits line.toList) :
    EndFree ((starred lines).toList ++ [' ', '*']) := by
  induction lines with
  | nil => exact .cons_cons (by decide) (.singleton '*')
  | cons line rest ih =>
      have hrest := ih fun line hline => h line (List.mem_cons_of_mem _ hline)
      have hline : EndFree (line.toList ++ '\n' :: ((starred rest).toList ++ [' ', '*'])) :=
        (h line List.mem_cons_self).endFree.append (hrest.cons (by decide)) (by simp)
      have hstar : EndFree ('*' :: ' ' :: (line.toList ++ '\n' :: ((starred rest).toList ++ [' ', '*']))) :=
        .cons_cons (by decide) (hline.cons (by decide))
      rw [toList_starred_cons]
      simp only [List.cons_append, List.append_assoc]
      exact hstar.cons (by decide)

/-- **Lines that fit make a block.** -/
theorem isBlock_of_fits {lines : List String} {block : String}
    (htext : block = "/**\n" ++ starred lines ++ " */\n") (h : ∀ line ∈ lines, Fits line.toList) :
    IsBlock lines block := by
  refine ⟨htext, fun line hline => (h line hline).not_endsLine, "/**\n" ++ starred lines ++ " */", ?_, ?_⟩
  · have hend : " */\n" = " */" ++ "\n" := rfl
    rw [htext, hend, ← String.append_assoc]
  · refine ⟨'*' :: '\n' :: ((starred lines).toList ++ [' ']), ?_, ?_⟩
    · simp only [String.toList_append, List.cons_append, List.append_assoc]
      rfl
    · have hstarred : EndFree ('\n' :: ((starred lines).toList ++ [' ', '*'])) :=
        (endFree_starred h).cons (by decide)
      simp only [List.cons_append, List.append_assoc]
      exact .cons_cons (by decide) hstarred

/-! ## The blocks of the modules -/

/-- The line of a summary, if there is one. -/
def summaryLines (summary : String) : List String := if summary.isEmpty then [] else [oneLine summary]

/-- The line of tags, if there are any. -/
def tagsLines (tags : String) : List String := if tags.isEmpty then [] else ["@tags" ++ " " ++ oneLine tags]

/-- The line that tells method and path. -/
def requestText (method path : String) : String := "@request" ++ " " ++ (Text.upper method ++ " " ++ oneLine path)

/-- The lines of the block above a service function. -/
def linesOfFunction (f : ServiceFunction) : List String :=
  summaryLines f.summary ++ tagsLines f.tags ++ [requestText f.method f.path]

/-- The lines of the block above a namespace of types. -/
def linesOfScope (s : TypeScope) : List String := summaryLines s.summary ++ [requestText s.method s.path]

/-- A text that is safe as it is fits. -/
theorem fits_of_oneLine_eq {text : String} (h : oneLine text = text) : Fits text.toList := h ▸ fits_oneLine text

/-- A mark that is safe fits in front of a text made safe. -/
theorem fits_mark {mark : String} (h : oneLine mark = mark) {text : String} (htext : Fits text.toList) :
    Fits (mark ++ " " ++ text).toList := by
  rw [String.append_assoc, String.toList_append, String.toList_append]
  exact (fits_of_oneLine_eq h).append_space htext

/-- Methods are safe as they are. -/
theorem oneLine_upper_httpMethods : ∀ m ∈ httpMethods, oneLine (Text.upper m) = Text.upper m := by decide

/-- The line of a summary fits. -/
theorem fits_of_mem_summaryLines {summary line : String} (h : line ∈ summaryLines summary) :
    Fits line.toList := by
  rw [summaryLines] at h
  split at h
  · cases h
  · rw [List.mem_singleton.mp h]
    exact fits_oneLine summary

/-- The line of tags fits. -/
theorem fits_of_mem_tagsLines {tags line : String} (h : line ∈ tagsLines tags) : Fits line.toList := by
  rw [tagsLines] at h
  split at h
  · cases h
  · rw [List.mem_singleton.mp h]
    exact fits_mark (by decide) (fits_oneLine tags)

/-- The line that tells method and path fits. -/
theorem fits_requestText {method : String} (h : method ∈ httpMethods) (path : String) :
    Fits (requestText method path).toList :=
  fits_mark (by decide) (fits_mark (oneLine_upper_httpMethods method h) (fits_oneLine path))

/-- The line of a summary, behind its star. -/
theorem optionalLine_summary (summary : String) : optionalLine " * " summary = starred (summaryLines summary) := by
  rw [optionalLine, summaryLines]
  split
  · rfl
  · rw [starred_singleton]

/-- The line of tags, behind its star. -/
theorem optionalLine_tags (tags : String) : optionalLine " * @tags " tags = starred (tagsLines tags) := by
  have hmark : " * @tags " = " * " ++ ("@tags" ++ " ") := rfl
  rw [optionalLine, tagsLines]
  split
  · rfl
  · simp only [starred_singleton, hmark, String.append_assoc]

/-- The line of the request, behind its star. -/
theorem requestLine_eq (method path : String) : requestLine method path = starred [requestText method path] := by
  have hmark : " * @request " = " * " ++ ("@request" ++ " ") := rfl
  unfold requestLine requestText
  rw [starred_singleton, hmark]
  simp only [String.append_assoc]

/-- **The block above a service function.** -/
theorem isBlock_ofFunction {f : ServiceFunction} (h : f.method ∈ httpMethods) :
    IsBlock (linesOfFunction f) (ofFunction f) := by
  apply isBlock_of_fits
  · rw [ofFunction, optionalLine_summary, optionalLine_tags, requestLine_eq, linesOfFunction, starred_append,
      starred_append]
    simp only [String.append_assoc]
  · intro line hline
    simp only [linesOfFunction, List.mem_append, List.mem_singleton] at hline
    rcases hline with (hsummary | htags) | rfl
    · exact fits_of_mem_summaryLines hsummary
    · exact fits_of_mem_tagsLines htags
    · exact fits_requestText h f.path

/-- **The block above a namespace of types.** -/
theorem isBlock_ofScope {s : TypeScope} (h : s.method ∈ httpMethods) : IsBlock (linesOfScope s) (ofScope s) := by
  apply isBlock_of_fits
  · rw [ofScope, optionalLine_summary, requestLine_eq, linesOfScope, starred_append]
    simp only [String.append_assoc]
  · intro line hline
    simp only [linesOfScope, List.mem_append, List.mem_singleton] at hline
    rcases hline with hsummary | rfl
    · exact fits_of_mem_summaryLines hsummary
    · exact fits_requestText h s.path

/-- The items of a module, each below its block. -/
def items {α : Type} (block code : α → String) (operations : List α) : String :=
  .join (operations.map fun operation => block operation ++ code operation)

/-- The text of a function begins with its block. -/
theorem exists_text_eq (templates : Templates) (f : ServiceFunction) :
    ∃ code, f.text templates = ofFunction f ++ code := by
  unfold ServiceFunction.text
  simp only [String.append_assoc]
  exact ⟨_, rfl⟩

/-- The text of a namespace begins with its block. -/
theorem exists_moduleText_eq_append (s : TypeScope) : ∃ code, s.moduleText = ofScope s ++ code := by
  unfold TypeScope.moduleText
  simp only [String.append_assoc]
  exact ⟨_, rfl⟩

/-- **Document text cannot leave the documentation blocks.** Behind its head each module consists of items that
begin with their blocks. Of a block, the summary, the tags and the request stand on one line each, and the
comment ends with the last line, not before. Making a text safe a second time keeps it. -/
theorem isBlock_modules (templates : Templates) (hservices : templates .servicesItems = .standard)
    (htypes : templates .typesItems = .standard) {functions : List ServiceFunction}
    (hfunctions : ∀ f ∈ functions, f.method ∈ httpMethods) {scopes : List TypeScope}
    (hscopes : ∀ s ∈ scopes, s.method ∈ httpMethods) (typesFileName : String) :
    (∃ code, servicesModule templates typesFileName functions
        = (templates .servicesHeader).text (servicesHead (typeImports functions) (moduleName typesFileName)) ++
          items ofFunction code functions ∧
      ∀ f ∈ functions, IsBlock (linesOfFunction f) (ofFunction f)) ∧
    (∃ code, typesModule templates scopes
        = (templates .typesHeader).text banner ++ items ofScope code scopes ∧
      ∀ s ∈ scopes, IsBlock (linesOfScope s) (ofScope s)) ∧
    ∀ text, oneLine (oneLine text) = oneLine text := by
  choose functionCode hfunction using exists_text_eq templates
  choose scopeCode hscope using exists_moduleText_eq_append
  refine ⟨⟨functionCode, ?_, fun f hf => isBlock_ofFunction (hfunctions f hf)⟩,
    ⟨scopeCode, ?_, fun s hs => isBlock_ofScope (hscopes s hs)⟩, oneLine_oneLine⟩
  · simp only [servicesModule, hservices, TemplatePart.text_standard, hfunction, items]
  · simp only [typesModule, htypes, TemplatePart.text_standard, hscope, items]

/-- A function whose texts try to leave the block: with the end mark, also where it would come about if only
white space were dropped, and with ends of lines. -/
def restless : ServiceFunction :=
  { (default : ServiceFunction) with
    method := "get", summary := "**//\u2028*/ const x = 1", tags := "*\u0085/,a*/", path := "/pets\r\n */" }

/-- The types of the restless function. -/
def restlessTypes : TypeScope :=
  { (default : TypeScope) with method := "get", summary := "*\u000b/*/ export", path := "/pets*/" }

/-- The blocks of the restless function and of its types. -/
theorem isBlock_modules_restless :
    (∀ f ∈ [restless], f.method ∈ httpMethods) ∧ (∀ s ∈ [restlessTypes], s.method ∈ httpMethods) ∧
    IsBlock ["**\\// *\\/ const x = 1", "@tags * /,a*\\/", "@request GET /pets *\\/"] (ofFunction restless) ∧
    IsBlock ["* /*\\/ export", "@request GET /pets*\\/"] (ofScope restlessTypes) := by
  have hmethod : ∀ f ∈ [restless], f.method ∈ httpMethods := by decide
  have hscope : ∀ s ∈ [restlessTypes], s.method ∈ httpMethods := by decide
  have hlines : linesOfFunction restless
      = ["**\\// *\\/ const x = 1", "@tags * /,a*\\/", "@request GET /pets *\\/"] := by decide
  have hlinesOfTypes : linesOfScope restlessTypes = ["* /*\\/ export", "@request GET /pets*\\/"] := by decide
  obtain ⟨⟨_, -, hfunctions⟩, ⟨_, -, htypes⟩, -⟩ :=
    isBlock_modules .standard rfl rfl hmethod hscope "services.types.ts"
  exact ⟨hmethod, hscope, hlines ▸ hfunctions restless List.mem_cons_self,
    hlinesOfTypes ▸ htypes restlessTypes List.mem_cons_self⟩

end Documentation

end ServiceBindings
