import ServiceBindings.Text.Blank
import ServiceBindings.TypeScript.Operators

/-! # Reading a text of the target language

`Cursor` says where a reader of a text stands: in code, inside a comment or inside a string literal, and
between which brackets. From the reader two notions are derived, both blind to what stands in comments,
in string literals and in brackets:

* `outline` are the characters of a text **outside all brackets**, comments and string literals left out;
* `HasOperator` says that an operator `|` or `&` is among them. This is what `isCompound` is meant to
  decide, without knowing comments. -/

namespace ServiceBindings

namespace TypeScript

/-! ## The reader -/

/-- Whether a character opens a bracket. -/
def isOpening (c : Char) : Bool := c ∈ ['\x7b', '[', '(', '<']

/-- Whether a character closes a bracket. -/
def isClosing (c : Char) : Bool := c ∈ ['\x7d', ']', ')', '>']

/-- The bracket that closes an opened one. -/
def closing (c : Char) : Char :=
  if c = '\x7b' then '\x7d' else if c = '[' then ']' else if c = '(' then ')' else '>'

/-- Whether a character is the mark of a string literal. -/
def isMark (c : Char) : Bool := c ∈ ['"', '\'']

/-- Whether a character is an operator between types. -/
def isOperator (c : Char) : Bool := c ∈ ['|', '&']

/-- Whether a character ends a line. -/
def isLineTerminator (c : Char) : Bool := c ∈ ['\n', '\r', '\u2028', '\u2029']

/-- Where a reader stands, and the brackets that are open there, the innermost first. -/
inductive Cursor where
  /-- In code. -/
  | code (opened : List Char)
  /-- In code, after a slash that a comment may begin with. -/
  | slash (opened : List Char)
  /-- In a comment that ends with its line. -/
  | line (opened : List Char)
  /-- In a comment that ends with a star and a slash. -/
  | comment (opened : List Char)
  /-- In such a comment, after a star. -/
  | star (opened : List Char)
  /-- In a string literal that ends with the given mark. -/
  | string (mark : Char) (opened : List Char)
  /-- In a string literal, after a backslash. -/
  | escape (mark : Char) (opened : List Char)
  /-- Behind a bracket that closes none. -/
  | broken
  deriving DecidableEq, Repr

namespace Cursor

/-- Pass one character of code. -/
def stepCode (opened : List Char) (c : Char) : Cursor :=
  if c = '/' then .slash opened
  else if isMark c then .string c opened
  else if isOpening c then .code (c :: opened)
  else if isClosing c then
    match opened with
    | [] => .broken
    | o :: rest => if closing o = c then .code rest else .broken
  else .code opened

/-- Pass one character. -/
def step : Cursor → Char → Cursor
  | .code opened, c => stepCode opened c
  | .slash opened, c =>
      if c = '*' then .comment opened else if c = '/' then .line opened else stepCode opened c
  | .line opened, c => if c = '\n' then .code opened else .line opened
  | .comment opened, c => if c = '*' then .star opened else .comment opened
  | .star opened, c =>
      if c = '/' then .code opened else if c = '*' then .star opened else .comment opened
  | .string mark opened, c =>
      if c = '\\' then .escape mark opened
      else if c = mark then .code opened
      else .string mark opened
  | .escape mark opened, _ => .string mark opened
  | .broken, _ => .broken

end Cursor

/-- Where a reader stands after some characters. -/
def read (cursor : Cursor) (cs : List Char) : Cursor := cs.foldl Cursor.step cursor

/-- The characters that a reader passes in code outside all brackets. -/
def outline : Cursor → List Char → List Char
  | _, [] => []
  | cursor, c :: rest =>
      (if cursor = .code [] ∧ cursor.step c = .code [] then [c] else []) ++
        outline (cursor.step c) rest

/-- An operator stands in an expression outside all comments, string literals and brackets. -/
def HasOperator (expression : String) : Prop :=
  ∃ c ∈ outline (.code []) expression.toList, isOperator c = true

instance (expression : String) : Decidable (HasOperator expression) :=
  decidable_of_iff _ List.any_eq_true

/-! ## Texts one after the other -/

@[simp] theorem read_nil (cursor : Cursor) : read cursor [] = cursor := rfl

@[simp] theorem read_cons (cursor : Cursor) (c : Char) (cs : List Char) :
    read cursor (c :: cs) = read (cursor.step c) cs := rfl

@[simp] theorem read_append (cursor : Cursor) (cs ds : List Char) :
    read cursor (cs ++ ds) = read (read cursor cs) ds := List.foldl_append

@[simp] theorem outline_nil (cursor : Cursor) : outline cursor [] = [] := rfl

theorem outline_cons (cursor : Cursor) (c : Char) (cs : List Char) :
    outline cursor (c :: cs)
      = (if cursor = .code [] ∧ cursor.step c = .code [] then [c] else []) ++
          outline (cursor.step c) cs := rfl

/-- The outline of two texts is that of the first and, from where it ends, that of the second. -/
theorem outline_append (cursor : Cursor) (cs ds : List Char) :
    outline cursor (cs ++ ds) = outline cursor cs ++ outline (read cursor cs) ds := by
  induction cs generalizing cursor with
  | nil => rfl
  | cons c cs ih => rw [List.cons_append, outline_cons, outline_cons, ih, List.append_assoc, read_cons]

/-- Off the outermost code nothing is added to the outline. -/
theorem outline_cons_of_ne {cursor : Cursor} (h : cursor ≠ .code []) (c : Char) (cs : List Char) :
    outline cursor (c :: cs) = outline (cursor.step c) cs := by
  rw [outline_cons, if_neg (fun hc => h hc.1), List.nil_append]

/-! ## Characters of code -/

/-- Whether a character is neither a bracket nor the beginning of a comment or a string literal. -/
def isPlain (c : Char) : Bool := !(c == '/' || isMark c || isOpening c || isClosing c)

/-- A plain character leaves the reader where it is. -/
theorem step_code_of_isPlain {c : Char} (h : isPlain c = true) (opened : List Char) :
    (Cursor.code opened).step c = .code opened := by
  simp only [isPlain, Bool.not_eq_true', Bool.or_eq_false_iff, beq_eq_false_iff_ne] at h
  obtain ⟨⟨⟨hslash, hmark⟩, hopen⟩, hclose⟩ := h
  simp only [Cursor.step, Cursor.stepCode, hslash, hmark, hopen, hclose, if_false,
    Bool.false_eq_true]

/-- Plain text leaves the reader where it is. -/
theorem read_code_of_isPlain {cs : List Char} (h : ∀ c ∈ cs, isPlain c = true) (opened : List Char) :
    read (.code opened) cs = .code opened := by
  induction cs with
  | nil => rfl
  | cons c cs ih =>
      rw [read_cons, step_code_of_isPlain (h c List.mem_cons_self)]
      exact ih fun d hd => h d (List.mem_cons_of_mem _ hd)

/-- Plain text outside all brackets is its own outline. -/
theorem outline_of_isPlain {cs : List Char} (h : ∀ c ∈ cs, isPlain c = true) :
    outline (.code []) cs = cs := by
  induction cs with
  | nil => rfl
  | cons c cs ih =>
      have hstep := step_code_of_isPlain (h c List.mem_cons_self) []
      rw [outline_cons, hstep, if_pos ⟨rfl, rfl⟩, ih fun d hd => h d (List.mem_cons_of_mem _ hd)]
      rfl

/-- Plain text inside brackets has no outline. -/
theorem outline_of_isPlain_of_ne_nil {cs : List Char} (h : ∀ c ∈ cs, isPlain c = true)
    {opened : List Char} (hopened : opened ≠ []) : outline (.code opened) cs = [] := by
  induction cs with
  | nil => rfl
  | cons c cs ih =>
      rw [outline_cons_of_ne (fun heq => hopened (Cursor.code.inj heq)),
        step_code_of_isPlain (h c List.mem_cons_self)]
      exact ih fun d hd => h d (List.mem_cons_of_mem _ hd)

/-- A class of characters is plain if brackets, marks and the slash are not in it. -/
theorem isPlain_of_all {P : Char → Bool} (hP : ['/', '"', '\'', '\x7b', '[', '(', '<', '\x7d',
    ']', ')', '>'].all (!P ·) = true) {c : Char} (h : P c = true) : isPlain c = true := by
  cases hplain : isPlain c with
  | true => rfl
  | false =>
      simp only [isPlain, isMark, isOpening, isClosing, Bool.not_eq_false', Bool.or_eq_true,
        beq_iff_eq, List.mem_cons, List.not_mem_nil, or_false, decide_eq_true_eq, or_assoc] at hplain
      have hc := List.all_eq_true.mp hP c (by simpa using hplain)
      rw [h] at hc
      cases hc

/-- White space is plain. -/
theorem isPlain_of_isBlank {c : Char} (h : isBlank c = true) : isPlain c = true :=
  isPlain_of_all (by decide) h

/-- Operators are plain. -/
theorem isPlain_of_isOperator {c : Char} (h : isOperator c = true) : isPlain c = true := by
  simp only [isOperator, List.mem_cons, List.not_mem_nil, or_false, decide_eq_true_eq] at h
  rcases h with rfl | rfl <;> rfl

/-- A class of characters holds no operator if neither of the two is in it. -/
theorem isOperator_eq_false_of_all {P : Char → Bool} (hP : ['|', '&'].all (!P ·) = true) {c : Char}
    (h : P c = true) : isOperator c = false := by
  cases hop : isOperator c with
  | false => rfl
  | true =>
      have hc := List.all_eq_true.mp hP c (by simpa only [isOperator, decide_eq_true_eq] using hop)
      rw [h] at hc
      cases hc

/-- A bracket opens. -/
theorem step_code_of_isOpening {c : Char} (h : isOpening c = true) (opened : List Char) :
    (Cursor.code opened).step c = .code (c :: opened) := by
  simp only [isOpening, List.mem_cons, List.not_mem_nil, or_false, decide_eq_true_eq] at h
  rcases h with rfl | rfl | rfl | rfl <;> rfl

/-- The innermost bracket closes. -/
theorem step_code_closing {c : Char} (h : isOpening c = true) (opened : List Char) :
    (Cursor.code (c :: opened)).step (closing c) = .code opened := by
  simp only [isOpening, List.mem_cons, List.not_mem_nil, or_false, decide_eq_true_eq] at h
  rcases h with rfl | rfl | rfl | rfl <;> rfl

end TypeScript

end ServiceBindings
