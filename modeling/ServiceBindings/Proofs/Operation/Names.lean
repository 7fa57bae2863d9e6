import ServiceBindings.Proofs.Operation.Collisions
import ServiceBindings.Proofs.TypeScript.Keys

/-! # Names as identifiers

A service function is bound to the name of its operation, and its types stand in the namespace of the operation.
Both should be **identifiers that may be bound** (`TypeScript.IsBindable`): of identifier characters alone, and
no reserved word.

A name is the method, or the mark and the method, with the segments of the path in front of its first brace
(`Naming.segments`). A segment gets a capital and is otherwise kept as it is. So **the names may be bound exactly
if the segments are spelled in identifier characters** (`Naming.isBindable_names_iff`), where

* the name ends at the brace only if no line feed stands behind it (`Naming.exists_dropPlaceholder_pascal`);
* of all methods `delete` is a reserved word, so it needs a segment (`Naming.eq_delete_of_isPrefix`).

Which characters beyond ASCII an identifier may hold is left open (`TypeScript.Letters`). Whatever they are, no
capital brings a brace or a line feed into a name (`eq_of_mem_capital`). -/

namespace ServiceBindings

/-! ## Identifiers that may be bound -/

namespace TypeScript

/-- The characters beyond ASCII of which identifiers are made. -/
structure Letters where
  /-- An identifier may begin with the character. -/
  first : Char → Prop
  /-- An identifier may go on with the character. -/
  later : Char → Prop

variable {letters : Letters}

/-- A character that an identifier may go on with; escapes are not counted among these. -/
def Continues (letters : Letters) (c : Char) : Prop :=
  BeginsIdentifier c ∨ '0' ≤ c ∧ c ≤ '9' ∨ 128 ≤ c.toNat ∧ letters.later c

/-- A text is spelled as an identifier. -/
def IsSpelled (letters : Letters) (name : List Char) : Prop := ∃ first rest, name = first :: rest ∧
  (BeginsIdentifier first ∨ 128 ≤ first.toNat ∧ letters.first first) ∧ ∀ c ∈ rest, Continues letters c

/-- The words that cannot be bound in a module. -/
def reservedWords : List String :=
  ["await", "break", "case", "catch", "class", "const", "continue", "debugger", "default", "delete", "do", "else",
    "enum", "export", "extends", "false", "finally", "for", "function", "if", "import", "in", "instanceof", "new",
    "null", "return", "super", "switch", "this", "throw", "true", "try", "typeof", "var", "void", "while", "with",
    "yield", "arguments", "eval", "implements", "interface", "let", "package", "private", "protected", "public",
    "static"]

/-- A name is an identifier that may be bound. -/
structure IsBindable (letters : Letters) (name : String) : Prop where
  /-- It is spelled as an identifier. -/
  isSpelled : IsSpelled letters name.toList
  /-- It is no reserved word. -/
  not_reserved : name ∉ reservedWords

/-- The characters of which property keys make identifiers are ASCII. -/
theorem toNat_lt_of_isIdentifierPart {c : Char} (h : isIdentifierPart c = true) : c.toNat < 128 := by
  rcases isIdentifierPart_iff.mp h with (⟨-, hupper⟩ | ⟨-, hlower⟩ | rfl | rfl) | ⟨-, hdigit⟩
  · exact Nat.lt_of_le_of_lt hupper (by decide)
  · exact Nat.lt_of_le_of_lt hlower (by decide)
  · decide
  · decide
  · exact Nat.lt_of_le_of_lt hdigit (by decide)

/-- An ASCII character is told as in a property key. -/
theorem continues_iff_of_ascii {c : Char} (h : c.toNat < 128) : Continues letters c ↔ isIdentifierPart c = true := by
  rw [isIdentifierPart_iff, Continues]
  refine or_congr_right (or_iff_left ?_)
  rintro ⟨hbeyond, -⟩
  exact Nat.not_le.mpr h hbeyond

/-- What stands behind an identifier has to go on with it. -/
theorem isSpelled_append {word : String} (h : isIdentifier word.toList = true) (rest : List Char) :
    IsSpelled letters (word.toList ++ rest) ↔ ∀ c ∈ rest, Continues letters c := by
  obtain ⟨first, others, hword, hfirst, hothers⟩ := isIdentifier_iff.mp h
  rw [hword]
  constructor
  · rintro ⟨_, _, heq, -, hcontinues⟩ c hc
    cases heq
    exact hcontinues c (List.mem_append_right _ hc)
  · intro hrest
    refine ⟨first, others ++ rest, rfl, .inl hfirst, fun c hc => ?_⟩
    rcases List.mem_append.mp hc with hc | hc
    · exact (hothers c hc).imp_right .inl
    · exact hrest c hc

end TypeScript

namespace Naming

open TypeScript (Continues IsBindable IsSpelled Letters continues_iff_of_ascii isIdentifier isIdentifierPart
  isIdentifierPart_iff isSpelled_append reservedWords toNat_lt_of_isIdentifierPart)

variable {letters : Letters} {method path : String}

/-! ## What names are made of -/

/-- A path up to its first brace. -/
def namedPart (path : String) : List Char := path.toList.takeWhile (· != '\x7b')

/-- A path from its first brace on. -/
def droppedPart (path : String) : List Char := path.toList.dropWhile (· != '\x7b')

/-- The segments of a path in front of its first brace. -/
def segments (path : String) : List (List Char) := Chars.splitWhere isSeparator (namedPart path)

/-- A segment that is not empty stands in front of the first brace. -/
def HasSegment (path : String) : Prop := ∃ segment ∈ segments path, segment ≠ []

/-- The segments of a path, with their capitals, are spelled in identifier characters. -/
structure Spells (letters : Letters) (path : String) : Prop where
  /-- A name goes on with each segment. -/
  continues : ∀ segment ∈ segments path, ∀ c ∈ Chars.capitalize segment, Continues letters c
  /-- Nothing comes back behind the first brace. -/
  lineFeed : '\n' ∉ droppedPart path

/-- The empty segments, which are left out, would add nothing. -/
theorem pascalChars_eq (cs : List Char) :
    pascalChars cs = (Chars.splitWhere isSeparator cs).flatMap Chars.capitalize := by
  rw [pascalChars]
  induction Chars.splitWhere isSeparator cs with
  | nil => rfl
  | cons segment rest ih =>
      cases segment with
      | nil => exact ih
      | cons c segment =>
          rw [List.filter_cons_of_pos rfl, List.flatMap_cons, List.flatMap_cons, ih]

/-- An ASCII character that is no capital letter stands in a segment with its capital exactly if it stands in the
segment. -/
theorem mem_capitalize_iff {d : Char} (hd : capital d = [d]) (hascii : 0 < d.toNat ∧ d.toNat < 128)
    (hletter : ¬ (65 ≤ d.toNat ∧ d.toNat ≤ 90)) {segment : List Char} :
    d ∈ Chars.capitalize segment ↔ d ∈ segment := by
  cases segment with
  | nil => exact Iff.rfl
  | cons c rest =>
      rw [Chars.capitalize, List.mem_append, List.mem_cons]
      refine or_congr_left ⟨fun h => eq_of_mem_capital h hascii hletter, ?_⟩
      rintro rfl
      rw [hd]
      exact List.mem_singleton_self d

/-- A segment has a capital if it has any character. -/
theorem capitalize_eq_nil_iff {segment : List Char} : Chars.capitalize segment = [] ↔ segment = [] := by
  cases segment with
  | nil => exact Iff.rfl
  | cons c rest => simp [Chars.capitalize, capital_ne_nil]

/-- Joining makes no braces. -/
theorem brace_notMem_pascalChars {cs : List Char} (h : '\x7b' ∉ cs) : '\x7b' ∉ pascalChars cs := by
  rw [pascalChars_eq, List.mem_flatMap]
  rintro ⟨segment, hsegment, hmem⟩
  have hchar := (mem_capitalize_iff (by decide) (by decide) (by decide)).mp hmem
  exact h (Chars.mem_of_mem_splitWhere hsegment hchar).1

/-- Behind a brace, no line feed comes or goes. -/
theorem exists_pascalChars_append (cs ds : List Char) : ∃ tail,
    pascalChars (cs ++ '\x7b' :: ds) = pascalChars cs ++ '\x7b' :: tail ∧ ('\n' ∈ tail ↔ '\n' ∈ ds) := by
  obtain ⟨front, last, first, others, hcs, hbrace, happend⟩ :=
    Chars.exists_splitWhere_append isSeparator cs ('\x7b' :: ds)
  obtain ⟨behind, pieces, hds⟩ := List.exists_cons_of_ne_nil (Chars.splitWhere_ne_nil isSeparator ds)
  -- the brace is no separator, so it begins the first piece of what stands behind `cs`
  rw [Chars.splitWhere_cons, if_neg (by decide), hds, List.modifyHead_cons] at hbrace
  cases hbrace
  have hlineFeed : ∀ segment, '\n' ∈ Chars.capitalize segment ↔ '\n' ∈ segment := fun _ =>
    mem_capitalize_iff (by decide) (by decide) (by decide)
  have hcapital : Chars.capitalize (last ++ '\x7b' :: behind) = Chars.capitalize last ++ '\x7b' :: behind := by
    cases last with
    | nil => exact congrArg (· ++ behind) (by decide : capital '\x7b' = ['\x7b'])
    | cons c last => simp only [Chars.capitalize, List.cons_append, List.append_assoc]
  refine ⟨behind ++ others.flatMap Chars.capitalize, ?_, ?_⟩
  · rw [pascalChars_eq, pascalChars_eq, happend, hcs]
    simp [hcapital]
  · rw [List.mem_append, List.mem_flatMap]
    constructor
    · rintro (hmem | ⟨piece, hpiece, hmem⟩)
      · exact (Chars.mem_of_mem_splitWhere (hds ▸ List.mem_cons_self) hmem).1
      · exact (Chars.mem_of_mem_splitWhere (hds ▸ List.mem_cons_of_mem _ hpiece) ((hlineFeed _).mp hmem)).1
    · intro hmem
      obtain ⟨piece, hpiece, hin⟩ := Chars.exists_mem_splitWhere hmem (by decide : isSeparator '\n' = false)
      rw [hds] at hpiece
      rcases List.mem_cons.mp hpiece with rfl | hpiece
      · exact .inl hin
      · exact .inr ⟨piece, hpiece, (hlineFeed _).mpr hin⟩

/-- What is dropped up to a character goes on with that character. -/
theorem eq_of_dropWhile_eq_cons {c d : Char} {cs rest : List Char} (h : cs.dropWhile (· != d) = c :: rest) :
    c = d := by
  have hhead := List.head?_dropWhile_not (· != d) cs
  rw [h] at hhead
  simpa using hhead

/-- A text is passed up to its first opening brace. -/
theorem dropPlaceholderChars_append {cs : List Char} (h : '\x7b' ∉ cs) (ds : List Char) :
    dropPlaceholderChars (cs ++ ds) = cs ++ dropPlaceholderChars ds := by
  have hpass : ∀ c ∈ cs, (c != '\x7b') = true := fun c hc => bne_iff_ne.mpr fun heq => h (heq ▸ hc)
  rw [dropPlaceholderChars, dropPlaceholderChars, List.takeWhile_append_of_pos hpass,
    List.dropWhile_append_of_pos hpass, List.append_assoc]

/-- Behind the brace, all is dropped up to a line feed. -/
theorem dropPlaceholderChars_brace (cs : List Char) :
    dropPlaceholderChars ('\x7b' :: cs) = cs.dropWhile (· != '\n') := rfl

/-- No brace stands in front of the first one. -/
theorem brace_notMem_namedPart (path : String) : '\x7b' ∉ namedPart path := by
  intro hmem
  simpa using List.mem_takeWhile_imp hmem

/-- **What is left of a path in its names**: the segments in front of the first brace with their capitals, and
behind them a line feed and what follows it, if one stands behind the brace. -/
theorem exists_dropPlaceholder_pascal (path : String) : ∃ tail,
    (dropPlaceholder (pascal path)).toList = (segments path).flatMap Chars.capitalize ++ tail ∧
      (tail ≠ [] → '\n' ∈ tail) ∧ (tail = [] ↔ '\n' ∉ droppedPart path) := by
  have hnamed := brace_notMem_pascalChars (brace_notMem_namedPart path)
  have hpath : namedPart path ++ droppedPart path = path.toList := List.takeWhile_append_dropWhile
  rw [segments, ← pascalChars_eq, dropPlaceholder, pascal, String.toList_ofList, String.toList_ofList, ← hpath]
  cases hrest : droppedPart path with
  | nil =>
      have hdrop := dropPlaceholderChars_append hnamed []
      rw [List.append_nil] at hdrop
      rw [List.append_nil]
      exact ⟨[], hdrop, fun h => absurd rfl h, by simp⟩
  | cons brace behind =>
      obtain rfl := eq_of_dropWhile_eq_cons hrest
      obtain ⟨tail, hpascal, htail⟩ := exists_pascalChars_append (namedPart path) behind
      refine ⟨tail.dropWhile (· != '\n'), ?_, fun h => ?_, ?_⟩
      · rw [hpascal, dropPlaceholderChars_append hnamed, dropPlaceholderChars_brace]
      · obtain ⟨c, rest, hlineFeed⟩ := List.exists_cons_of_ne_nil h
        rw [hlineFeed, eq_of_dropWhile_eq_cons hlineFeed]
        exact List.mem_cons_self
      · have hne : '\n' ≠ '\x7b' := by decide
        rw [List.dropWhile_eq_nil_iff, List.mem_cons, or_iff_right hne, ← htail]
        simp only [bne_iff_ne]
        exact ⟨fun h hmem => h _ hmem rfl, fun h c hc heq => h (heq ▸ hc)⟩

/-! ## Names that may be bound -/

/-- No identifier goes on with a line feed. -/
theorem not_continues_lineFeed : ¬ Continues letters '\n' := by
  rw [continues_iff_of_ascii (by decide)]
  decide

/-- What is left of a path goes on with an identifier exactly if the segments are spelled so. -/
theorem continues_dropPlaceholder_iff :
    (∀ c ∈ (dropPlaceholder (pascal path)).toList, Continues letters c) ↔ Spells letters path := by
  obtain ⟨tail, hdrop, hlineFeed, htail⟩ := exists_dropPlaceholder_pascal path
  rw [hdrop]
  constructor
  · intro h
    refine ⟨fun segment hsegment c hc => ?_, htail.mp ?_⟩
    · exact h c (List.mem_append_left _ (List.mem_flatMap.mpr ⟨segment, hsegment, hc⟩))
    · by_contra hne
      exact not_continues_lineFeed (h '\n' (List.mem_append_right _ (hlineFeed hne)))
  · intro h c hc
    rw [htail.mpr h.lineFeed, List.append_nil, List.mem_flatMap] at hc
    obtain ⟨segment, hsegment, hc⟩ := hc
    exact h.continues segment hsegment c hc

/-- Nothing is left of a path exactly if it has no segment, unless a line feed stands behind the brace. -/
theorem dropPlaceholder_pascal_eq_empty_iff (h : '\n' ∉ droppedPart path) :
    dropPlaceholder (pascal path) = "" ↔ ¬ HasSegment path := by
  obtain ⟨tail, hdrop, -, htail⟩ := exists_dropPlaceholder_pascal path
  rw [htail.mpr h, List.append_nil] at hdrop
  rw [← String.toList_eq_nil_iff, hdrop, List.flatMap_eq_nil_iff, HasSegment]
  simp only [capitalize_eq_nil_iff, not_exists, not_and, not_not]

/-- Methods are identifiers. -/
theorem isIdentifier_httpMethods : ∀ m ∈ httpMethods,
    isIdentifier m.toList = true ∧ isIdentifier ("NS" ++ pascal m).toList = true := by decide

/-- No reserved word begins with a method but `delete`. -/
theorem eq_delete_of_isPrefix : ∀ m ∈ httpMethods, ∀ word ∈ reservedWords, m.toList <+: word.toList →
    m = "delete" ∧ word = "delete" := by decide

/-- No reserved word begins with a capital letter. -/
theorem not_mark_isPrefix : ∀ word ∈ reservedWords, ¬ "NS".toList <+: word.toList := by decide

/-- **The name of a service function** may be bound exactly if the segments are spelled in identifier characters
and the name is not that of the method `delete` alone. -/
theorem isBindable_functionName_iff (h : method ∈ httpMethods) :
    IsBindable letters (functionName method path) ↔
      Spells letters path ∧ (method = "delete" → HasSegment path) := by
  have hspelled : IsSpelled letters (functionName method path).toList ↔ Spells letters path := by
    rw [functionName, String.toList_append, isSpelled_append (isIdentifier_httpMethods method h).1,
      continues_dropPlaceholder_iff]
  constructor
  · rintro ⟨hname, hreserved⟩
    have hpath := hspelled.mp hname
    refine ⟨hpath, fun hdelete => ?_⟩
    -- without a segment the name is the bare method
    by_contra hnone
    refine hreserved ?_
    rw [functionName, hdelete, (dropPlaceholder_pascal_eq_empty_iff hpath.lineFeed).mpr hnone]
    decide
  · rintro ⟨hpath, hsegment⟩
    refine ⟨hspelled.mpr hpath, fun hreserved => ?_⟩
    have hprefix : method.toList <+: (functionName method path).toList := by
      rw [functionName, String.toList_append]
      exact List.prefix_append _ _
    obtain ⟨rfl, hname⟩ := eq_delete_of_isPrefix method h _ hreserved hprefix
    have hempty : dropPlaceholder (pascal path) = "" := by
      rw [functionName] at hname
      simpa using hname
    exact (dropPlaceholder_pascal_eq_empty_iff hpath.lineFeed).mp hempty (hsegment rfl)

/-- **The name of a namespace** may be bound exactly if the segments are spelled in identifier characters. -/
theorem isBindable_scopeName_iff (h : method ∈ httpMethods) :
    IsBindable letters (scopeName method path) ↔ Spells letters path := by
  have hspelled : IsSpelled letters (scopeName method path).toList ↔ Spells letters path := by
    rw [scopeName, String.toList_append, isSpelled_append (isIdentifier_httpMethods method h).2,
      continues_dropPlaceholder_iff]
  refine ⟨fun hbindable => hspelled.mp hbindable.isSpelled, fun hpath => ⟨hspelled.mpr hpath, fun hreserved => ?_⟩⟩
  refine not_mark_isPrefix _ hreserved ?_
  rw [scopeName, String.append_assoc, String.toList_append]
  exact List.prefix_append _ _

/-- The capital of an identifier character of ASCII is one, too. -/
theorem isIdentifierPart_toUpper : ∀ n < 128, isIdentifierPart (Char.ofNat n) = true →
    isIdentifierPart (Char.ofNat n).toUpper = true := by decide

/-- **A path of ASCII letters and digits between separators** is spelled in identifier characters, however it goes
on behind the first brace, as long as it stays on its line. -/
theorem spells_of_forall
    (h : (namedPart path).all (fun c => isSeparator c || isIdentifierPart c) = true)
    (hlineFeed : '\n' ∉ droppedPart path) : Spells letters path := by
  have hcontinues : ∀ {c : Char}, isIdentifierPart c = true → Continues letters c := fun hc =>
    (isIdentifierPart_iff.mp hc).imp_right .inl
  refine ⟨fun segment hsegment c hc => ?_, hlineFeed⟩
  have hpart : ∀ d ∈ segment, isIdentifierPart d = true := by
    intro d hd
    obtain ⟨hmem, hseparator⟩ := Chars.mem_of_mem_splitWhere hsegment hd
    have hd := List.all_eq_true.mp h d hmem
    rwa [hseparator, Bool.false_or] at hd
  cases segment with
  | nil => cases hc
  | cons d rest =>
      rw [Chars.capitalize, List.mem_append] at hc
      rcases hc with hc | hc
      -- in ASCII a capital is one character
      · have hd := hpart d List.mem_cons_self
        have hascii := toNat_lt_of_isIdentifierPart hd
        rw [capital, if_pos hascii, List.mem_singleton] at hc
        have hupper := isIdentifierPart_toUpper d.toNat hascii
        rw [Char.ofNat_toNat] at hupper
        rw [hc]
        exact hcontinues (hupper hd)
      · exact hcontinues (hpart c (List.mem_cons_of_mem _ hc))

/-- **The names of an operation may be bound exactly if the segments in front of the first brace are spelled in
identifier characters**, with no line feed behind the brace. The name of the function must not be that of the
method `delete` alone, either. -/
theorem isBindable_names_iff (letters : Letters) (h : method ∈ httpMethods) (path : String) :
    (IsBindable letters (functionName method path) ↔
      Spells letters path ∧ (method = "delete" → HasSegment path)) ∧
    (IsBindable letters (scopeName method path) ↔ Spells letters path) :=
  ⟨isBindable_functionName_iff h, isBindable_scopeName_iff h⟩

/-- The names of an operation on a single pet. -/
theorem isBindable_names_pet : "delete" ∈ httpMethods ∧ functionName "delete" "/pets/\x7bid\x7d" = "deletePets" ∧
    scopeName "delete" "/pets/\x7bid\x7d" = "NSDeletePets" ∧
    ∀ letters, IsBindable letters "deletePets" ∧ IsBindable letters "NSDeletePets" := by
  have hmethod : "delete" ∈ httpMethods := by decide
  have hfunction : functionName "delete" "/pets/\x7bid\x7d" = "deletePets" := by decide
  have hscope : scopeName "delete" "/pets/\x7bid\x7d" = "NSDeletePets" := by decide
  refine ⟨hmethod, hfunction, hscope, fun letters => ?_⟩
  have hspells : Spells letters "/pets/\x7bid\x7d" := spells_of_forall (by decide) (by decide)
  obtain ⟨hname, hnamespace⟩ := isBindable_names_iff letters hmethod "/pets/\x7bid\x7d"
  rw [hfunction] at hname
  rw [hscope] at hnamespace
  exact ⟨hname.mpr ⟨hspells, fun _ => ⟨"pets".toList, by decide, by decide⟩⟩, hnamespace.mpr hspells⟩

/-- A segment with a point makes no identifier, and a path that begins with its placeholder leaves the bare
method. -/
theorem not_isBindable_petsJson : functionName "get" "/pets.json" = "getPets.json" ∧
    scopeName "get" "/pets.json" = "NSGetPets.json" ∧ functionName "delete" "/\x7bid\x7d" = "delete" ∧
    ∀ letters, ¬ IsBindable letters "getPets.json" ∧ ¬ IsBindable letters "NSGetPets.json" ∧
      ¬ IsBindable letters "delete" := by
  have hmethod : "get" ∈ httpMethods := by decide
  have hfunction : functionName "get" "/pets.json" = "getPets.json" := by decide
  have hscope : scopeName "get" "/pets.json" = "NSGetPets.json" := by decide
  refine ⟨hfunction, hscope, by decide, fun letters => ?_⟩
  have hspells : ¬ Spells letters "/pets.json" := by
    intro h
    have hpoint := h.continues "pets.json".toList (by decide) '.' (by decide)
    rw [continues_iff_of_ascii (by decide)] at hpoint
    exact absurd hpoint (by decide)
  refine ⟨fun h => ?_, fun h => ?_, fun h => h.not_reserved (by decide)⟩
  · rw [← hfunction, isBindable_functionName_iff hmethod] at h
    exact hspells h.1
  · rw [← hscope, isBindable_scopeName_iff hmethod] at h
    exact hspells h

end Naming

/-- The functions of a document have names that may be bound, and so have their namespaces, exactly if the paths
that they show are spelled in identifier characters. -/
theorem ServiceFunction.isBindable_iff {selection : Selection} {document : Value} {bindings : Bindings}
    (letters : TypeScript.Letters) (h : bindingsOf selection document = .ok bindings) {f : ServiceFunction}
    (hf : f ∈ bindings.functions) :
    (TypeScript.IsBindable letters f.name ↔
      Naming.Spells letters f.path ∧ (f.method = "delete" → Naming.HasSegment f.path)) ∧
    (TypeScript.IsBindable letters f.scope ↔ Naming.Spells letters f.path) := by
  obtain ⟨hmethod, hname, hscope⟩ := names_of_mem h hf
  rw [hname, hscope]
  exact ⟨Naming.isBindable_functionName_iff hmethod, Naming.isBindable_scopeName_iff hmethod⟩

end ServiceBindings
