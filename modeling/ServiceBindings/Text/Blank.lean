import ServiceBindings.Text.Split

/-! # White space

* `isBlank` is the white space of the Unicode standard (its property *White_Space*) together
  with the four information separators U+001C to U+001F.
* `Chars.strip` and `Text.strip` remove it at both ends, `stripRight` at the end only.
* `Chars.words` and `Text.words` are the maximal runs of other characters. -/

namespace ServiceBindings

/-- White space, the information separators included. -/
def isBlank (c : Char) : Bool :=
  let n := c.toNat
  (9 ≤ n && n ≤ 13) || (28 ≤ n && n ≤ 32) || n == 0x85 || n == 0xA0 || n == 0x1680 ||
    (0x2000 ≤ n && n ≤ 0x200A) || n == 0x2028 || n == 0x2029 || n == 0x202F || n == 0x205F ||
    n == 0x3000

namespace Chars

/-- Drop white space at the end. -/
def stripRight (cs : List Char) : List Char :=
  (cs.reverse.dropWhile isBlank).reverse

/-- Drop white space at both ends. -/
def strip (cs : List Char) : List Char :=
  stripRight (cs.dropWhile isBlank)

/-- The words of a text: its maximal runs of characters other than white space. -/
def words (cs : List Char) : List (List Char) :=
  (splitWhere isBlank cs).filter (!·.isEmpty)

@[simp] theorem stripRight_nil : stripRight [] = [] := rfl

@[simp] theorem strip_nil : strip [] = [] := rfl

@[simp] theorem words_nil : words [] = [] := rfl

/-- White space at the very end goes. -/
theorem stripRight_append_of_isBlank {c : Char} (h : isBlank c = true) (cs : List Char) :
    stripRight (cs ++ [c]) = stripRight cs := by
  rw [stripRight, stripRight, List.reverse_append, List.reverse_singleton, List.singleton_append,
    List.dropWhile_cons, if_pos h]

/-- A text with another character at its end stays as it is. -/
theorem stripRight_append_of_not_isBlank {c : Char} (h : isBlank c = false) (cs : List Char) :
    stripRight (cs ++ [c]) = cs ++ [c] := by
  have hc : ¬ isBlank c = true := by rw [h]; exact Bool.false_ne_true
  rw [stripRight, List.reverse_append, List.reverse_singleton, List.singleton_append,
    List.dropWhile_cons, if_neg hc, List.reverse_cons, List.reverse_reverse]

/-- A word stands in the text. -/
theorem isInfix_of_mem_words {cs word : List Char} (h : word ∈ words cs) : word <:+: cs :=
  isInfix_of_mem_splitWhere (List.mem_filter.mp h).1

/-- A word is a word: it has characters, and none of them is white space. -/
theorem isWord_of_mem_words {cs word : List Char} (h : word ∈ words cs) :
    word ≠ [] ∧ ∀ c ∈ word, isBlank c = false := by
  obtain ⟨hpiece, hne⟩ := List.mem_filter.mp h
  exact ⟨by simpa using hne, fun c hc => (mem_of_mem_splitWhere hpiece hc).2⟩

/-- **The words come back** from the text in which one space stands between neighbours. -/
theorem words_join {pieces : List (List Char)}
    (h : ∀ word ∈ pieces, word ≠ [] ∧ ∀ c ∈ word, isBlank c = false) : words (join [' '] pieces) = pieces := by
  have hspace : isBlank ' ' = true := rfl
  by_cases hne : pieces = []
  · rw [hne]
    rfl
  · rw [words, splitWhere_join hne (fun word hword => (h word hword).2) hspace, List.filter_eq_self]
    intro word hword
    simpa using (h word hword).1

end Chars

namespace Text

/-- Drop white space at both ends. -/
def strip (text : String) : String := .ofList (Chars.strip text.toList)

/-- Drop white space at the end. -/
def stripRight (text : String) : String := .ofList (Chars.stripRight text.toList)

/-- Whether a text holds nothing but white space. -/
def isBlank (text : String) : Bool := text.toList.all ServiceBindings.isBlank

/-- The words of a text: its maximal runs of characters other than white space. -/
def words (text : String) : List String := (Chars.words text.toList).map String.ofList

@[simp] theorem toList_strip (text : String) : (strip text).toList = Chars.strip text.toList := by
  simp [strip]

@[simp] theorem toList_stripRight (text : String) :
    (stripRight text).toList = Chars.stripRight text.toList := by
  simp [stripRight]

end Text

end ServiceBindings
