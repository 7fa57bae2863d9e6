import ServiceBindings.Proofs.TypeScript.Declaration

/-! # The tokens of a declaration

`Token.ofText?` takes a text apart, knowing only string literals between double quotation marks, where a
backslash escapes the next character, and comments between `/*` and `*/`; it fails where the text ends
inside one of these.

**A declaration has well-formed tokens** (`WellFormed`), whatever descriptions, names and values its schema
holds: no string literal holds a line end, the brackets outside string literals and comments are properly
nested, and every comment is, from the margin in front of it to the line feed behind it, one that
`TypeScript.comment` writes for a description. So no comment ends before the mark that was put at its end. -/

namespace ServiceBindings

namespace TypeScript

/-! ## Tokens -/

/-- A piece of a text. -/
inductive Token where
  /-- A character outside string literals and comments. -/
  | code (c : Char)
  /-- A string literal, by the characters between its marks. -/
  | string (body : List Char)
  /-- A comment, by the characters between its marks. -/
  | comment (body : List Char)
  deriving DecidableEq, Repr

namespace Token

/-- Where the text is being taken apart. -/
inductive Place where
  /-- Outside string literals and comments. -/
  | code
  /-- In a string literal that begins with the given characters. -/
  | string (begun : List Char)
  /-- In a comment that begins with the given characters. -/
  | comment (begun : List Char)

/-- The tokens of a text from a place on. -/
def readFrom : Place → List Char → Option (List Token)
  | .code, [] => some []
  | .code, '"' :: cs => readFrom (.string []) cs
  | .code, '/' :: '*' :: cs => readFrom (.comment []) cs
  | .code, c :: cs => (readFrom .code cs).map (.code c :: ·)
  | .string _, [] => none
  | .string begun, '"' :: cs => (readFrom .code cs).map (.string begun :: ·)
  | .string begun, '\\' :: c :: cs => readFrom (.string (begun ++ ['\\', c])) cs
  | .string begun, c :: cs => readFrom (.string (begun ++ [c])) cs
  | .comment _, [] => none
  | .comment begun, '*' :: '/' :: cs => (readFrom .code cs).map (.comment begun :: ·)
  | .comment begun, c :: cs => readFrom (.comment (begun ++ [c])) cs

/-- The tokens of a text, if it ends outside string literals and comments. -/
def ofText? (text : String) : Option (List Token) := readFrom .code text.toList

/-- The character that a token of code is. -/
def code? : Token → Option Char
  | .code c => some c
  | _ => none

/-- The characters outside string literals and comments. -/
def codeOf (tokens : List Token) : List Char := tokens.filterMap code?

@[simp] theorem codeOf_append (v w : List Token) : codeOf (v ++ w) = codeOf v ++ codeOf w :=
  List.filterMap_append

@[simp] theorem codeOf_code_cons (c : Char) (w : List Token) :
    codeOf (.code c :: w) = c :: codeOf w := rfl

@[simp] theorem codeOf_map_code (cs : List Char) : codeOf (cs.map .code) = cs := by
  induction cs with
  | nil => rfl
  | cons c cs ih => rw [List.map_cons, codeOf_code_cons, ih]

end Token

open Token (readFrom codeOf)

/-! ## Properly nested brackets -/

/-- Every bracket closes, and brackets close in the order in which they were opened last. -/
inductive Nested : List Char → Prop where
  /-- Nothing. -/
  | nil : Nested []
  /-- A character that is no bracket. -/
  | char {c : Char} {cs : List Char} :
      isOpening c = false → isClosing c = false → Nested cs → Nested (c :: cs)
  /-- Brackets around a text. -/
  | bracket {o : Char} {v w : List Char} :
      isOpening o = true → Nested v → Nested w → Nested (o :: v ++ closing o :: w)

/-- Nested texts one after the other. -/
theorem Nested.append {v w : List Char} (hv : Nested v) (hw : Nested w) : Nested (v ++ w) := by
  induction hv with
  | nil => exact hw
  | char ho hc _ ih => exact .char ho hc ih
  | bracket ho hinner _ _ ih =>
      rw [List.append_assoc]
      exact .bracket ho hinner ih

/-- A plain character is no bracket, no mark and no slash. -/
theorem isPlain_iff {c : Char} : isPlain c = true ↔
    c ≠ '/' ∧ isMark c = false ∧ isOpening c = false ∧ isClosing c = false := by
  simp [isPlain, and_assoc]

/-- Plain text has no brackets. -/
theorem nested_of_isPlain {cs : List Char} (h : ∀ c ∈ cs, isPlain c = true) : Nested cs := by
  induction cs with
  | nil => exact .nil
  | cons c cs ih =>
      obtain ⟨-, -, ho, hc⟩ := isPlain_iff.mp (h c List.mem_cons_self)
      exact .char ho hc (ih fun d hd => h d (List.mem_cons_of_mem _ hd))

/-! ## Well-formed tokens -/

/-- A comment between two lists of tokens is the one that is written for a text of a given kind: behind
its margin and in front of its line feed. -/
def IsWritten (X : String → Prop) (before : List Token) (body : List Char) (after : List Token) : Prop :=
  ∃ x margin, X x ∧ Text.isBlank margin = true ∧ margin.toList.map .code <:+ before ∧
    after.head? = some (.code '\n') ∧
    (comment x margin).toList = margin.toList ++ "/*".toList ++ body ++ "*/\n".toList

/-- Every comment among some tokens is written for a text of a given kind. -/
def Commented (X : String → Prop) (tokens : List Token) : Prop :=
  ∀ before body after, tokens = before ++ .comment body :: after → IsWritten X before body after

/-- The tokens are well formed, with comments for texts of a given kind. -/
structure WellFormed (X : String → Prop) (tokens : List Token) : Prop where
  /-- No string literal holds a line end. -/
  strings : ∀ body, .string body ∈ tokens → ∀ c ∈ body, isLineBreak c = false
  /-- The brackets outside string literals and comments are properly nested. -/
  brackets : Nested (codeOf tokens)
  /-- No slash stands outside string literals and comments, so no mark of a comment does. -/
  slashes : '/' ∉ codeOf tokens
  /-- Every comment is one that is written for a text. -/
  comments : Commented X tokens

variable {X : String → Prop} {nested operator : Bool} {v w : List Token}

/-- More tokens around a comment change nothing. -/
theorem IsWritten.extend {before after : List Token} {body : List Char}
    (h : IsWritten X before body after) (earlier later : List Token) :
    IsWritten X (earlier ++ before) body (after ++ later) := by
  obtain ⟨x, margin, hx, hmargin, hbefore, hafter, heq⟩ := h
  refine ⟨x, margin, hx, hmargin, hbefore.trans (List.suffix_append _ _), ?_, heq⟩
  rw [List.head?_append, hafter, Option.some_or]

/-- Tokens without comments. -/
theorem commented_of_forall_ne (h : ∀ token ∈ w, ∀ body, token ≠ .comment body) : Commented X w := by
  intro before body after heq
  have hmem : .comment body ∈ w := by
    rw [heq]
    exact List.mem_append_right _ List.mem_cons_self
  exact absurd rfl (h _ hmem body)

/-- Comments are written in tokens one after the other if they are in both parts. -/
theorem Commented.append (hv : Commented X v) (hw : Commented X w) : Commented X (v ++ w) := by
  intro before body after heq
  rcases List.append_eq_append_iff.mp heq with ⟨rest, rfl, hrest⟩ | ⟨rest, hrest, hafter⟩
  · have h := (hw rest body after hrest).extend v []
    rwa [List.append_nil] at h
  · cases rest with
    | nil =>
        rw [List.append_nil] at hrest
        have h := (hw [] body after hafter.symm).extend before []
        rwa [List.append_nil, List.append_nil] at h
    | cons token rest =>
        rw [List.cons_append, List.cons.injEq] at hafter
        obtain ⟨rfl, rfl⟩ := hafter
        exact (hv before body rest hrest).extend [] w

namespace WellFormed

/-- Nothing is well formed. -/
theorem nil : WellFormed X [] :=
  ⟨nofun, .nil, nofun, commented_of_forall_ne nofun⟩

/-- Well-formed tokens one after the other. -/
theorem append (hv : WellFormed X v) (hw : WellFormed X w) : WellFormed X (v ++ w) where
  strings body hbody := (List.mem_append.mp hbody).elim (hv.strings body) (hw.strings body)
  brackets := by
    rw [Token.codeOf_append]
    exact hv.brackets.append hw.brackets
  slashes := by
    rw [Token.codeOf_append, List.mem_append]
    exact fun h => h.elim hv.slashes hw.slashes
  comments := hv.comments.append hw.comments

/-- Plain code is well formed. -/
theorem of_isPlain {cs : List Char} (h : ∀ c ∈ cs, isPlain c = true) :
    WellFormed X (cs.map .code) where
  strings body hbody := by simp at hbody
  brackets := by
    rw [Token.codeOf_map_code]
    exact nested_of_isPlain h
  slashes := by
    rw [Token.codeOf_map_code]
    exact fun hmem => (isPlain_iff.mp (h '/' hmem)).1 rfl
  comments := commented_of_forall_ne (by simp)

/-- A string literal on one line is well formed. -/
theorem string {body : List Char} (h : Quoted body) : WellFormed X [.string body] where
  strings body' hbody := by
    rw [List.mem_singleton, Token.string.injEq] at hbody
    exact fun c hc => h.isLineBreak_eq_false (hbody ▸ hc)
  brackets := .nil
  slashes := nofun
  comments := commented_of_forall_ne (by simp)

/-- Brackets around well-formed tokens are well formed. -/
theorem bracket {o : Char} (ho : isOpening o = true) (hv : WellFormed X v) (hw : WellFormed X w) :
    WellFormed X (.code o :: v ++ .code (closing o) :: w) where
  strings body hbody := by
    simp only [List.cons_append, List.mem_cons, List.mem_append, reduceCtorEq, false_or] at hbody
    exact hbody.elim (hv.strings body) (hw.strings body)
  brackets := by
    rw [Token.codeOf_append, Token.codeOf_code_cons, Token.codeOf_code_cons]
    exact .bracket ho hv.brackets hw.brackets
  slashes := by
    have hmarks : '/' ≠ o ∧ '/' ≠ closing o := by
      simp only [isOpening, List.mem_cons, List.not_mem_nil, or_false, decide_eq_true_eq] at ho
      rcases ho with rfl | rfl | rfl | rfl <;> decide
    simp only [Token.codeOf_append, Token.codeOf_code_cons, List.cons_append, List.mem_cons,
      List.mem_append, hmarks.1, hmarks.2, hv.slashes, hw.slashes, or_self, not_false_eq_true]
  comments := by
    have hchar : ∀ c, Commented X [.code c] := fun c => commented_of_forall_ne (by simp)
    exact ((hchar o).append hv.comments).append ((hchar (closing o)).append hw.comments)

/-- A written comment is well formed with its margin and the line feed behind it. -/
theorem comment {x margin : String} {body : List Char} (hx : X x)
    (hmargin : Text.isBlank margin = true) (heq : (TypeScript.comment x margin).toList
      = margin.toList ++ "/*".toList ++ body ++ "*/\n".toList) :
    WellFormed X (margin.toList.map .code ++ [.comment body, .code '\n']) where
  strings body' hbody := by simp at hbody
  brackets := by
    rw [Token.codeOf_append, Token.codeOf_map_code]
    refine (nested_of_isPlain fun c hc => ?_).append (.char (by decide) (by decide) .nil)
    exact isPlain_of_isBlank (List.all_eq_true.mp hmargin c hc)
  slashes := by
    rw [Token.codeOf_append, Token.codeOf_map_code, List.mem_append]
    rintro (hmem | hmem)
    · exact absurd (List.all_eq_true.mp hmargin '/' hmem) (by decide)
    · have hfeed : '/' ∉ ['\n'] := by decide
      exact hfeed hmem
  comments := by
    intro before body' after hsplit
    -- neither the margin nor the line feed is a comment, so the comment found is the one between them
    have hmargin' : Token.comment body' ∉ margin.toList.map Token.code := by simp
    have hfeed : Token.comment body' ∉ [Token.code '\n'] := by simp
    obtain ⟨rfl, hbody, rfl⟩ := (List.append_cons_inj_of_notMem hmargin' hfeed).mp hsplit
    rw [Token.comment.injEq] at hbody
    exact ⟨x, margin, hx, hmargin, List.suffix_refl _, rfl, hbody ▸ heq⟩

end WellFormed

/-! ## Reading tokens -/

/-- A text is taken apart into some tokens, whatever stands behind it. -/
def Reads (cs : List Char) (tokens : List Token) : Prop :=
  ∀ rest, readFrom .code (cs ++ rest) = (readFrom .code rest).map (tokens ++ ·)

namespace Reads

variable {cs ds : List Char}

/-- Nothing is no token. -/
theorem nil : Reads [] [] := fun rest => by simp

/-- Texts one after the other. -/
theorem append (hcs : Reads cs v) (hds : Reads ds w) : Reads (cs ++ ds) (v ++ w) := by
  intro rest
  rw [List.append_assoc, hcs, hds, Option.map_map]
  simp [Function.comp_def]

/-- A text that is taken apart ends outside string literals and comments. -/
theorem ofText? {text : String} (h : Reads text.toList w) : Token.ofText? text = some w := by
  have hend := h []
  rw [List.append_nil] at hend
  rw [Token.ofText?, hend, readFrom, Option.map_some, List.append_nil]

/-- A character that is no mark and no slash is code. -/
theorem char {c : Char} (hmark : c ≠ '"') (hslash : c ≠ '/') : Reads [c] [.code c] := by
  intro rest
  rw [List.singleton_append, readFrom]
  · rfl
  · exact hmark
  · intro _ hc
    exact absurd hc hslash

/-- Plain text is code. -/
theorem of_isPlain (h : ∀ c ∈ cs, isPlain c = true) : Reads cs (cs.map .code) := by
  induction cs with
  | nil => exact .nil
  | cons c cs ih =>
      obtain ⟨hslash, hmark, -, -⟩ := isPlain_iff.mp (h c List.mem_cons_self)
      have hquote : c ≠ '"' := by
        rintro rfl
        cases hmark
      exact (Reads.char hquote hslash).append (ih fun d hd => h d (List.mem_cons_of_mem _ hd))

end Reads

/-- Quoted text is the inside of a string literal. -/
theorem Quoted.readFrom {cs : List Char} (h : Quoted cs) (begun rest : List Char) :
    readFrom (.string begun) (cs ++ '"' :: rest)
      = (readFrom .code rest).map (.string (begun ++ cs) :: ·) := by
  induction h generalizing begun with
  | nil => rw [List.nil_append, List.append_nil, Token.readFrom]
  | @char c cs hmark hslash _ _ ih =>
      rw [List.cons_append, Token.readFrom, ih, List.append_assoc, List.singleton_append]
      · exact hmark
      · intro _ _ hc
        exact absurd hc hslash
  | @escape c cs _ _ ih =>
      rw [List.cons_append, List.cons_append, Token.readFrom, ih, List.append_assoc, List.cons_append,
        List.singleton_append]

/-- **Text without end mark is the inside of a comment.** -/
theorem EndFree.readFrom {cs : List Char} (h : EndFree cs) (begun rest : List Char) :
    readFrom (.comment begun) (cs ++ '*' :: '/' :: rest)
      = (readFrom .code rest).map (.comment (begun ++ cs) :: ·) := by
  induction cs generalizing begun with
  | nil => rw [List.nil_append, List.append_nil, Token.readFrom]
  | cons c cs ih =>
      rw [List.cons_append, Token.readFrom, ih (List.IsChain.tail h), List.append_assoc,
        List.singleton_append]
      -- a star and a slash do not stand here, nor does a star of the text meet the slash of the mark
      intro ds hc hds
      cases cs with
      | nil => cases hds
      | cons d cs =>
          rw [List.cons_append, List.cons.injEq] at hds
          exact (List.isChain_cons_cons.mp h).1 ⟨hc, hds.1⟩

/-- A string literal is one token. -/
theorem reads_string {body : List Char} (h : Quoted body) :
    Reads ('"' :: body ++ ['"']) [.string body] := by
  intro rest
  have heq : '"' :: body ++ ['"'] ++ rest = '"' :: (body ++ '"' :: rest) := by simp
  rw [heq, Token.readFrom, h.readFrom]
  rfl

/-- A comment is one token. -/
theorem reads_comment {body : List Char} (h : EndFree body) :
    Reads ("/*".toList ++ body ++ "*/".toList) [.comment body] := by
  intro rest
  have heq : "/*".toList ++ body ++ "*/".toList ++ rest
      = '/' :: '*' :: (body ++ '*' :: '/' :: rest) := by simp
  rw [heq, Token.readFrom, h.readFrom]
  rfl

/-! ## Woven texts -/

/-- **A comment on a text is one token**, between its margin and a line feed. -/
theorem exists_reads_comment {x margin : String} (hx : X x) (hmargin : Text.isBlank margin = true) :
    ∃ tokens, Reads (comment x margin).toList tokens ∧ WellFormed X tokens := by
  cases hempty : x.isEmpty with
  | true =>
      have hnone : (comment x margin).toList = [] := by
        rw [comment, if_pos hempty]
        rfl
      rw [hnone]
      exact ⟨[], .nil, .nil⟩
  | false =>
      obtain ⟨body, hbody, hhead, heq⟩ := exists_comment_eq hempty hmargin
      have hinside : EndFree ('*' :: body ++ [' ']) := by
        have hstar : EndFree ('*' :: body) :=
          List.IsChain.cons hbody fun b hb hab => hhead (by rw [Option.mem_def.mp hb, hab.2])
        exact hstar.append (.singleton ' ') (by decide)
      have hwhole : (comment x margin).toList
          = margin.toList ++ "/*".toList ++ ('*' :: body ++ [' ']) ++ "*/\n".toList := by
        rw [heq]
        simp
      refine ⟨_, ?_, .comment hx hmargin hwhole⟩
      have hplain : ∀ c ∈ margin.toList, isPlain c = true := fun c hc =>
        isPlain_of_isBlank (List.all_eq_true.mp hmargin c hc)
      have hfeed : Reads ['\n'] [.code '\n'] := .char (by decide) (by decide)
      have hreads := (Reads.of_isPlain hplain).append ((reads_comment hinside).append hfeed)
      rw [hwhole]
      simpa using hreads

/-- **Woven text has well-formed tokens.** -/
theorem Woven.exists_reads {w : List Char} (h : Woven X nested operator w) :
    ∃ tokens, Reads w tokens ∧ WellFormed X tokens := by
  induction h with
  | nil => exact ⟨[], .nil, .nil⟩
  | @plain _ _ c w hplain _ _ _ ih =>
      obtain ⟨tokens, hreads, hformed⟩ := ih
      have hc : ∀ d ∈ [c], isPlain d = true := fun d hd => by rwa [List.mem_singleton.mp hd]
      exact ⟨_, (Reads.of_isPlain hc).append hreads, (WellFormed.of_isPlain hc).append hformed⟩
  | @operator _ _ c w hop _ ih =>
      obtain ⟨tokens, hreads, hformed⟩ := ih
      have hc : ∀ d ∈ [c], isPlain d = true := fun d hd => by
        rw [List.mem_singleton.mp hd]
        exact isPlain_of_isOperator hop
      exact ⟨_, (Reads.of_isPlain hc).append hreads, (WellFormed.of_isPlain hc).append hformed⟩
  | @string _ _ body w hbody _ ih =>
      obtain ⟨tokens, hreads, hformed⟩ := ih
      refine ⟨_, ?_, (WellFormed.string hbody).append hformed⟩
      have hwhole := (reads_string hbody).append hreads
      rwa [List.append_assoc, List.singleton_append] at hwhole
  | @bracket _ _ _ o v w ho _ _ ihv ihw =>
      obtain ⟨inner, hinner, hinside⟩ := ihv
      obtain ⟨outer, houter, hbehind⟩ := ihw
      refine ⟨_, ?_, .bracket ho hinside hbehind⟩
      have hmarks : o ≠ '"' ∧ o ≠ '/' ∧ closing o ≠ '"' ∧ closing o ≠ '/' := by
        simp only [isOpening, List.mem_cons, List.not_mem_nil, or_false, decide_eq_true_eq] at ho
        rcases ho with rfl | rfl | rfl | rfl <;> decide
      obtain ⟨hmark, hslash, hmark', hslash'⟩ := hmarks
      exact ((Reads.char hmark hslash).append hinner).append
        ((Reads.char hmark' hslash').append houter)
  | @comment _ x margin w hx hmargin _ ih =>
      obtain ⟨tokens, hreads, hformed⟩ := ih
      obtain ⟨written, hwritten, hcomment⟩ := exists_reads_comment hx hmargin
      exact ⟨_, hwritten.append hreads, hcomment.append hformed⟩

/-! ## Declarations -/

namespace Printer

variable {p : Printer}

/-- A text is the description of a schema that stands somewhere in a schema or in one that its
references reach. -/
def Described (p : Printer) (s : Schema) (text : String) : Prop :=
  ∃ u t, p.Reaches s u ∧ Schema.Within t u ∧ t.description? = some text

/-- The comments of a schema that is reached are descriptions. -/
theorem Reaches.described_of_comments {s t : Schema} (hst : p.Reaches s t) {text : String}
    (h : p.Comments t text) : p.Described s text := by
  obtain ⟨u, htu, o, c, ho, hc, hdesc⟩ := comments_iff.mp h
  refine ⟨u, c, hst.trans htu, ?_, hdesc⟩
  cases hc with
  | declared hmem => exact .head (.property hmem) ho

/-- **A declaration has well-formed tokens**: it ends outside string literals and comments, no string
literal holds a line end, its brackets are properly nested, and each of its comments is one that is
written for a description. -/
theorem exists_tokens_of_declaration (hindent : Text.isBlank p.indent = true) {name : String}
    (hname : ∀ c ∈ name.toList, isPlain c = true) {s : Schema} {text : String}
    (h : p.declaration name s = .ok text) :
    ∃ tokens, Token.ofText? text = some tokens ∧ WellFormed (p.Described s) tokens := by
  obtain ⟨bound, chain, t, hreach, ht⟩ := exists_declareWith_of_declareFrom h
  obtain ⟨header, hheader, body, ⟨operator, hbody⟩, htext⟩ :=
    exists_parts_of_declareWith hindent (fun _ hx => hreach.described_of_comments hx) ht
  -- the comment on the schema at the root, which stands outside the woven text
  obtain ⟨lead, hlead, hleadFormed⟩ : ∃ tokens,
      Reads ((t.description?.map fun text => comment text "").getD "").toList tokens ∧
        WellFormed (p.Described s) tokens := by
    cases hdesc : t.description? with
    | none => exact ⟨[], .nil, .nil⟩
    | some x => exact exists_reads_comment ⟨t, t, hreach, .refl, hdesc⟩ rfl
  obtain ⟨tokens, htokens, hformed⟩ := hbody.exists_reads
  have hplain : ∀ c ∈ header.toList, isPlain c = true := by
    have hwords : ∀ c ∈ "export interface type = ".toList, isPlain c = true := List.all_eq_true.mp rfl
    exact fun c hc => (mem_name_or_mem_words hheader hc).elim (hname c) (hwords c)
  have hfeed : ∀ c ∈ ['\n'], isPlain c = true := List.all_eq_true.mp rfl
  refine ⟨_, Reads.ofText? (w := lead ++ header.toList.map .code ++ tokens ++ ['\n'].map .code) ?_, ?_⟩
  · rw [htext]
    exact ((hlead.append (.of_isPlain hplain)).append htokens).append (.of_isPlain hfeed)
  · exact ((hleadFormed.append (.of_isPlain hplain)).append hformed).append (.of_isPlain hfeed)

/-- A property whose name is no identifier, with an end mark in its description, leaves well-formed
tokens. -/
theorem exists_tokens_of_declaration_endMark :
    ∃ tokens, Token.ofText? "export interface Tag \x7b\n  /** a *\\/ b */\n  \"a-b\"?: string;\n\x7d\n"
        = some tokens ∧
      WellFormed (Described ⟨none, "  "⟩ (.object [("a-b", .primitive ["string"]
        [(.text "description", .text "a */ b")])] none .unspecified [])) tokens := by
  have hname : ∀ c ∈ "Tag".toList, isPlain c = true := List.all_eq_true.mp rfl
  exact exists_tokens_of_declaration rfl hname rfl

end Printer

end TypeScript

end ServiceBindings
