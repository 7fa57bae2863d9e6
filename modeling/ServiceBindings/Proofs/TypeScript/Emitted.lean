import ServiceBindings.Proofs.TypeScript.Closure
import ServiceBindings.Proofs.TypeScript.Pieces

/-! # Every expression is a woven text

Whatever a schema says, the expression that is written for it is put together from plain characters,
operators, string literals and brackets, with comments only between brackets: the woven texts are a closed
class (`Printer.closed_weaves`). The texts of these comments are the descriptions of properties.

So the text of an expression ends where its reader begins, whatever descriptions, names and values the
schema holds (`Printer.weaves_expressionWith_referenceExpression`). -/

namespace ServiceBindings

namespace TypeScript

variable {X : String → Prop} {nested : Bool}

namespace Printer

variable {p : Printer}

/-- A margin is white space if one level of it is. -/
theorem isBlank_margin (hindent : Text.isBlank p.indent = true) (depth : Nat) :
    Text.isBlank (p.margin depth) = true := by
  rw [Text.isBlank, margin, String.toList_ofList, List.all_eq_true]
  intro c hc
  obtain ⟨cs, hcs, hc⟩ := List.mem_flatten.mp hc
  rw [List.eq_of_mem_replicate hcs] at hc
  exact List.all_eq_true.mp hindent c hc

/-- A margin is woven between brackets. -/
theorem weaves_margin (hindent : Text.isBlank p.indent = true) (depth : Nat) :
    Weaves X true (p.margin depth).toList :=
  weaves_of_isBlank (List.all_eq_true.mp (isBlank_margin hindent depth))

/-- The line of a property is woven between brackets if its comment may be written there. -/
theorem weaves_member (hindent : Text.isBlank p.indent = true) {s : Schema}
    (hcomment : ∀ x, s.description? = some x → X x) {type : String}
    (htype : Weaves X true type.toList) (depth : Nat) (required : List String) (name : String) :
    Weaves X true (p.member depth required name s type).toList := by
  have hlead : Weaves X true
      ((s.description?.map fun text => comment text (p.margin (depth + 1))).getD "").toList := by
    cases hdesc : s.description? with
    | none => exact .nil
    | some x =>
        have hwoven : Woven X true false ((comment x (p.margin (depth + 1))).toList ++ []) :=
          .comment (hcomment x hdesc) (isBlank_margin hindent _) .nil
        rw [List.append_nil] at hwoven
        exact ⟨false, hwoven⟩
  have hoptional : Weaves X true (if name ∈ required then "" else "?").toList := by
    split
    · exact .nil
    · exact weaves_of_all_isNeutral (by decide)
  simp only [member, String.toList_append]
  refine (((((hlead.append (weaves_margin hindent _)).append (weaves_propertyKey name)).append
    hoptional).append ?_).append htype).append ?_
  · exact weaves_of_all_isNeutral (by decide)
  · exact weaves_of_all_isNeutral (by decide)

/-- There is one line about undeclared properties at most. -/
theorem eq_of_mem_indexLines {depth : Nat} {additional : Additional Schema} {line : String}
    (h : line ∈ p.indexLines depth additional) :
    line = p.margin (depth + 1) ++ "[k: string]: " ++ unknownType ++ ";" := by
  unfold indexLines at h
  split at h
  · cases h
  · cases h
  · exact List.mem_singleton.mp h

/-- The line about undeclared properties is woven between brackets. -/
theorem weaves_indexLines (hindent : Text.isBlank p.indent = true) (depth : Nat)
    (additional : Additional Schema) {line : String} (h : line ∈ p.indexLines depth additional) :
    Weaves X true line.toList := by
  have heq : line.toList = (p.margin (depth + 1)).toList ++
      ('[' :: "k: string".toList ++ [closing '[']) ++ ": unknown;".toList := by
    simp [eq_of_mem_indexLines h, unknownType, String.toList_append, closing]
  rw [heq]
  refine ((weaves_margin hindent _).append (.bracket (by decide) ?_)).append ?_
  · exact weaves_of_all_isNeutral (by decide)
  · exact weaves_of_all_isNeutral (by decide)

/-- Texts below each other. -/
theorem toList_join_lines (first : String) (rest : List String) :
    (Text.join "\n" (first :: rest)).toList
      = first.toList ++ rest.flatMap fun line => '\n' :: line.toList := by
  rw [Text.join, String.toList_intercalate, List.map_cons]
  induction rest generalizing first with
  | nil => simp
  | cons next rest ih =>
      rw [List.map_cons, List.intercalate_cons_cons, ih, List.flatMap_cons]
      simp

/-- The characters of an object type: its lines, each behind a line feed, between brackets. -/
theorem toList_objectType (p : Printer) (depth : Nat) (lines : List String) :
    (p.objectType depth lines).toList = '\x7b' :: (lines.flatMap (fun line => '\n' :: line.toList) ++
      '\n' :: (p.margin depth).toList) ++ [closing '\x7b'] := by
  rw [objectType, List.cons_append, toList_join_lines, List.flatMap_append]
  simp [String.toList_append, closing]

/-- Lines below each other are woven between brackets if each of them is. -/
theorem weaves_flatMap_lines {lines : List String} (h : ∀ line ∈ lines, Weaves X true line.toList) :
    Weaves X true (lines.flatMap fun line => '\n' :: line.toList) := by
  have hfeed : Weaves X true ['\n'] := weaves_of_isBlank (List.all_eq_true.mp (by decide))
  induction lines with
  | nil => exact .nil
  | cons line lines ih =>
      rw [List.flatMap_cons]
      refine (hfeed.append (h line List.mem_cons_self)).append ?_
      exact ih fun line hline => h line (List.mem_cons_of_mem _ hline)

/-- An object type is woven if its lines are, and no operator stands outside its brackets. -/
theorem woven_objectType (hindent : Text.isBlank p.indent = true) (depth : Nat)
    {lines : List String} (h : ∀ line ∈ lines, Weaves X true line.toList) :
    Woven X nested false (p.objectType depth lines).toList := by
  have hfeed : Weaves X true ['\n'] := weaves_of_isBlank (List.all_eq_true.mp (by decide))
  rw [toList_objectType]
  refine Weaves.woven_bracket (by decide) ((weaves_flatMap_lines h).append ?_)
  exact hfeed.append (weaves_margin hindent depth)

/-- An object type is woven if the types in its lines are, and no operator stands outside its brackets. -/
theorem woven_objectType_of_isPropertyLine (hindent : Text.isBlank p.indent = true) {depth : Nat}
    {lines : List String}
    (h : ∀ line ∈ lines, p.IsPropertyLine X (fun text => Weaves X false text.toList) depth line)
    (additional : Additional Schema) :
    Woven X nested false (p.objectType depth (lines ++ p.indexLines depth additional)).toList := by
  refine woven_objectType hindent depth fun line hline => ?_
  rcases List.mem_append.mp hline with hline | hline
  · obtain ⟨required, name, s, type, rfl, htype, hcomment⟩ := h line hline
    exact weaves_member hindent hcomment htype.nest depth required name
  · exact weaves_indexLines hindent depth additional hline

/-- **The woven texts are a closed class**: only the lines of an object hold comments, and they stand between
its brackets. -/
theorem closed_weaves (hindent : Text.isBlank p.indent = true) :
    p.Closed X fun text => Weaves X false text.toList where
  name := by
    intro type htype
    have hall : ∀ type ∈ [unknownType, "never", "null"], type.toList.all isNeutral = true := by decide
    exact weaves_of_all_isNeutral (hall type htype)
  literal := weaves_literalType
  primitive := weaves_primitiveType
  union _ := weaves_union
  intersection _ := weaves_intersection
  unknowns := weaves_array (weaves_of_all_isNeutral (by decide))
  array _ h := weaves_array (weaves_operand h)
  record _ := weaves_recordOf
  object _ _ additional h := ⟨false, woven_objectType_of_isPropertyLine hindent h additional⟩

/-- **Whatever is written for a schema, on top of any chain of references, is woven** if the descriptions
that become comments may be written as such. -/
theorem weaves_expressionWith_referenceExpression (hindent : Text.isBlank p.indent = true) {s : Schema}
    (hcomments : ∀ x, p.Comments s x → X x) {bound : Nat} {chain : List String} {depth : Nat}
    {text : String} (h : p.expressionWith (p.referenceExpression bound chain) depth s = .ok text) :
    Weaves X false text.toList :=
  (closed_weaves hindent).expressionWith_referenceExpression hcomments h

end Printer

end TypeScript

end ServiceBindings
