import ServiceBindings.Proofs.Operation.Building
import ServiceBindings.Proofs.TypeScript.Declaration

/-! # References to the members of a namespace

A service function refers to a member of its namespace if the document **presents** it
(`OperationContext.Built.refersTo_iff`), and a namespace declares a member if there is something **to
declare** (`OperationContext.Built.declares_iff`): its text is three declarations or less, of different
names. So nothing is declared in vain (`OperationContext.Built.refersTo_of_declares`).

Over all bindings, **a member that is referred to is declared exactly when some selected operation of the
namespace has something to declare for it** (`isDeclared_iff_hasToDeclare`). A function of an operation that
presents more than this refers to what is nowhere declared (`not_isDeclared_widgets_header`). -/

namespace ServiceBindings

open TypeScript

/-! ## Members -/

/-- Where a text holds a character for the last time, it is cut in one way only. -/
theorem append_cons_inj_of_notMem_after {x : Char} {before before' after after' : List Char} (h : x ∉ after)
    (h' : x ∉ after') (heq : before ++ x :: after = before' ++ x :: after') :
    before = before' ∧ after = after' := by
  -- if one of the two places stood further on, what stands behind the other would hold the character again
  rcases List.append_eq_append_iff.mp heq with ⟨more, rfl, hmore⟩ | ⟨more, rfl, hmore⟩ <;>
    rcases List.cons_eq_append_iff.mp hmore with ⟨rfl, hafter⟩ | ⟨more, rfl, rfl⟩
  · exact ⟨(List.append_nil _).symm, (List.cons.inj hafter).2.symm⟩
  · exact absurd (List.mem_append_right _ List.mem_cons_self) h
  · exact ⟨List.append_nil _, (List.cons.inj hafter).2⟩
  · exact absurd (List.mem_append_right _ List.mem_cons_self) h'

namespace ScopeMember

/-- Members have different names. -/
theorem name_injective {member other : ScopeMember} (h : member.name = other.name) : member = other := by
  revert h
  cases member <;> cases other <;> decide

/-- The name of a member holds no point. -/
theorem point_notMem_name (member : ScopeMember) : '.' ∉ member.name.toList := by
  cases member <;> decide

/-- **A qualified member is written in one way only**: the namespace is what stands before the last point. -/
theorem qualified_injective {member other : ScopeMember} {scope scope' : String}
    (h : member.qualified scope = other.qualified scope') : member = other ∧ scope = scope' := by
  have hchars : scope.toList ++ '.' :: member.name.toList = scope'.toList ++ '.' :: other.name.toList := by
    have h := congrArg String.toList h
    simp only [qualified, String.toList_append, List.append_assoc] at h
    exact h
  obtain ⟨hscope, hname⟩ := append_cons_inj_of_notMem_after member.point_notMem_name other.point_notMem_name hchars
  exact ⟨name_injective (String.toList_injective hname), String.toList_injective hscope⟩

/-- A qualified member holds a point. -/
theorem point_mem_qualified (member : ScopeMember) (scope : String) :
    '.' ∈ (member.qualified scope).toList := by
  rw [qualified, String.toList_append, String.toList_append]
  exact List.mem_append_left _ (List.mem_append_right _ (by decide))

/-- The name of a member is neutral. -/
theorem all_isNeutral_name (member : ScopeMember) : member.name.toList.all isNeutral = true := by
  cases member <;> decide

/-- A line begins with the declaration of one member at most. -/
theorem eq_of_headers {member other : ScopeMember} {line : List Char}
    (hmember : ∃ header ∈ headers member.name, header.toList <+: line)
    (hother : ∃ header ∈ headers other.name, header.toList <+: line) : member = other := by
  have hcomparable : ∀ m m' : ScopeMember, (∃ a ∈ headers m.name, ∃ b ∈ headers m'.name,
      a.toList <+: b.toList) → m = m' := by
    intro m m'
    cases m <;> cases m' <;> decide
  obtain ⟨a, ha, hbegins⟩ := hmember
  obtain ⟨b, hb, hbegins'⟩ := hother
  -- one of the two begins the other, which no header of another member does
  rcases List.prefix_or_prefix_of_prefix hbegins hbegins' with hab | hba
  · exact hcomparable member other ⟨a, ha, b, hb, hab⟩
  · exact (hcomparable other member ⟨b, hb, a, ha, hba⟩).symm

end ScopeMember

/-! ## What a function refers to -/

namespace TypeScript

/-- The types of the schema language hold no point. -/
theorem point_notMem_primitiveTypeOf (v : Value) : '.' ∉ (primitiveTypeOf v).toList := by
  have hunknown : '.' ∉ unknownType.toList := by decide
  have hall : ∀ entry ∈ primitiveTypes, '.' ∉ entry.2.toList := by decide
  cases hname : v.text? with
  | none =>
      rw [primitiveTypeOf, hname]
      exact hunknown
  | some name =>
      rw [primitiveTypeOf, hname, Option.map_some, Option.getD_some]
      rcases primitiveType_cases name with heq | ⟨entry, hmem, heq⟩
      · rw [heq]
        exact hunknown
      · rw [heq]
        exact hall entry hmem

end TypeScript

namespace OperationContext

variable {c : OperationContext} {operation : Operation} {f : ServiceFunction} {scope : TypeScope}

namespace Built

/-- The type of the parameters is the member if the document presents it, and holds no point if not. -/
theorem paramsType_cases (h : c.Built operation f scope) :
    c.Presents operation .params ∧ f.paramsType = ScopeMember.params.qualified f.scope ∨
      ¬ c.Presents operation .params ∧ '.' ∉ f.paramsType.toList := by
  obtain ⟨parameters, hparameters, htype, -⟩ := h.exists_parameters
  have hiff : c.Presents operation .params ↔
      Naming.hasId (c.pathOf operation) = false ∧ parameters ≠ [] := by
    constructor
    · rintro ⟨hid, parameters', hparameters', hne⟩
      rw [Except.ok.inj (hparameters.symm.trans hparameters')]
      exact ⟨hid, hne⟩
    · rintro ⟨hid, hne⟩
      exact ⟨hid, parameters, hparameters, hne⟩
  rw [hiff]
  cases parameters with
  | nil =>
      rw [paramsType] at htype
      rw [← Except.ok.inj htype]
      exact Or.inr ⟨fun h => h.2 rfl, by decide⟩
  | cons first rest =>
      rw [paramsType] at htype
      cases hid : Naming.hasId (c.pathOf operation) with
      | false =>
          rw [hid, if_neg Bool.false_ne_true] at htype
          exact Or.inl ⟨⟨rfl, List.cons_ne_nil _ _⟩, (Except.ok.inj htype).symm⟩
      -- with an identifier in the path the type is that of the first parameter
      | true =>
          rw [hid, if_pos rfl, bind_eq_ok_iff] at htype
          obtain ⟨schema, -, htype⟩ := htype
          refine Or.inr ⟨fun h => Bool.noConfusion h.1, ?_⟩
          rw [← Except.ok.inj htype]
          split
          · exact point_notMem_primitiveTypeOf _
          · decide

/-- The type of the body is the member if the document presents it, and holds no point if not. -/
theorem bodyType_cases (h : c.Built operation f scope) :
    c.Presents operation .body ∧ f.bodyType = ScopeMember.body.qualified f.scope ∨
      ¬ c.Presents operation .body ∧ '.' ∉ f.bodyType.toList := by
  rw [h.bodyType_eq]
  split
  case isTrue hbody => exact Or.inl ⟨hbody, rfl⟩
  case isFalse hbody => exact Or.inr ⟨hbody, by decide⟩

/-- The type of the response is the member if the document presents it, and holds no point if not. -/
theorem responseType_cases (h : c.Built operation f scope) :
    c.Presents operation .response ∧ f.responseType = ScopeMember.response.qualified f.scope ∨
      ¬ c.Presents operation .response ∧ '.' ∉ f.responseType.toList := by
  rw [h.responseType_eq]
  split
  case isTrue hblob => exact Or.inr ⟨fun hpresents => hpresents.1 hblob, by decide⟩
  case isFalse hblob =>
    split
    case isTrue hresponse => exact Or.inl ⟨⟨hblob, hresponse⟩, rfl⟩
    case isFalse hresponse => exact Or.inr ⟨fun hpresents => hresponse hpresents.2, by decide⟩

/-- Each type of a function is the member if the document presents it, and holds no point if not. -/
theorem memberType_cases (h : c.Built operation f scope) (member : ScopeMember) :
    c.Presents operation member ∧ f.memberType member = member.qualified f.scope ∨
      ¬ c.Presents operation member ∧ '.' ∉ (f.memberType member).toList := by
  cases member with
  | params => exact h.paramsType_cases
  | body => exact h.bodyType_cases
  | response => exact h.responseType_cases

/-- A type of a function is a member if the document presents it, and then only its own one. -/
theorem memberType_eq_iff (h : c.Built operation f scope) {member other : ScopeMember} {name : String} :
    f.memberType other = member.qualified name ↔
      c.Presents operation other ∧ member = other ∧ name = f.scope := by
  rcases h.memberType_cases other with ⟨hpresents, htype⟩ | ⟨habsent, hpoint⟩
  · constructor
    · intro heq
      exact ⟨hpresents, ScopeMember.qualified_injective (heq.symm.trans htype)⟩
    · rintro ⟨-, rfl, rfl⟩
      exact htype
  -- a type that is not the member holds no point, so it is no other member either
  · refine iff_of_false (fun heq => ?_) fun hand => habsent hand.1
    rw [heq] at hpoint
    exact hpoint (ScopeMember.point_mem_qualified member name)

/-- **A function refers to exactly those members that the document presents.** -/
theorem refersTo_iff (h : c.Built operation f scope) (member : ScopeMember) :
    f.RefersTo member ↔ c.Presents operation member := by
  have htypes : f.RefersTo member ↔ ∃ other, f.memberType other = member.qualified f.scope := by
    constructor
    · intro href
      simp only [ServiceFunction.RefersTo, List.mem_cons, List.not_mem_nil, or_false] at href
      rcases href with heq | heq | heq
      · exact ⟨.params, heq.symm⟩
      · exact ⟨.body, heq.symm⟩
      · exact ⟨.response, heq.symm⟩
    · rintro ⟨other, heq⟩
      rw [ServiceFunction.RefersTo, ← heq]
      cases other <;> simp [ServiceFunction.memberType]
  rw [htypes]
  constructor
  · rintro ⟨other, heq⟩
    obtain ⟨hpresents, rfl, -⟩ := h.memberType_eq_iff.mp heq
    exact hpresents
  · intro hpresents
    exact ⟨member, h.memberType_eq_iff.mpr ⟨hpresents, rfl, rfl⟩⟩

end Built

/-! ## What a namespace declares -/

/-- A text that is not empty is a declaration. -/
theorem IsTextIf.isDeclaration {member : ScopeMember} {found : Prop} {text : String}
    (h : c.IsTextIf member found text) (hfound : found) : IsDeclaration member.name text := by
  rcases h with ⟨-, s, hs⟩ | ⟨hnone, -⟩
  · have hindent : Text.isBlank c.printer.indent = true := by
      show Text.isBlank "  " = true
      decide
    exact Printer.isDeclaration_of_declaration hindent member.all_isNeutral_name hs
  · exact absurd hfound hnone

/-- A text of a namespace and a text behind it declare the member of the first, if it was found, and what
the second declares. -/
theorem IsTextIf.declares_append_iff {member : ScopeMember} {found : Prop} {text : String}
    (h : c.IsTextIf member found text) (rest : String) (other : ScopeMember) :
    Declares (text ++ rest) other.name ↔ other = member ∧ found ∨ Declares rest other.name := by
  by_cases hfound : found
  · obtain ⟨line, hline, hiff⟩ := (h.isDeclaration hfound).declares_append_iff_line
    rw [hiff]
    refine or_congr_left ⟨fun hother => ⟨ScopeMember.eq_of_headers hother hline, hfound⟩, ?_⟩
    rintro ⟨rfl, -⟩
    exact hline
  · rcases h with ⟨hyes, -⟩ | ⟨-, rfl⟩
    · exact absurd hyes hfound
    · rw [String.empty_append]
      exact ⟨Or.inr, fun hor => hor.resolve_left fun hand => hfound hand.2⟩

/-- **A namespace declares exactly those members for which there is something to declare.** -/
theorem Built.declares_iff (h : c.Built operation f scope) (member : ScopeMember) :
    Declares scope.text member.name ↔ c.HasToDeclare operation member := by
  have htext : scope.text = scope.paramsText ++ (scope.bodyText ++ (scope.responseText ++ "")) := by
    rw [TypeScope.text, String.append_empty, String.append_assoc]
  rw [htext, h.isTextIf_params.declares_append_iff, h.isTextIf_body.declares_append_iff,
    h.isTextIf_response.declares_append_iff]
  constructor
  · rintro (⟨rfl, hfound⟩ | ⟨rfl, hfound⟩ | ⟨rfl, hfound⟩ | hempty)
    · exact hfound
    · exact hfound
    · exact hfound
    · exact absurd hempty (not_declares_empty _)
  · intro hfound
    cases member with
    | params => exact Or.inl ⟨rfl, hfound⟩
    | body => exact Or.inr (Or.inl ⟨rfl, hfound⟩)
    | response => exact Or.inr (Or.inr (Or.inl ⟨rfl, hfound⟩))

/-- **Nothing is declared in vain**: a function refers to what its own namespace declares. -/
theorem Built.refersTo_of_declares (h : c.Built operation f scope) {member : ScopeMember}
    (hdeclares : Declares scope.text member.name) : f.RefersTo member :=
  (h.refersTo_iff member).mpr ((h.declares_iff member).mp hdeclares).presents

end OperationContext

/-! ## All bindings -/

namespace Selection

/-- What the derivation of bindings needs to know besides each operation. -/
def context (selection : Selection) (document : Value) : OperationContext :=
  ⟨document, selection.base, selection.blobPaths⟩

/-- The selected operations of a document. -/
def operations (selection : Selection) (document : Value) : List Operation :=
  match document.get? "paths" with
  | some (.map entries) =>
      operationsOf selection.includePaths selection.excludePaths (pathItems entries)
  | _ => []

end Selection

namespace Bindings

/-- A member of a namespace is declared in one of the namespaces with that name. -/
def IsDeclared (bindings : Bindings) (name : String) (member : ScopeMember) : Prop :=
  ∃ scope ∈ bindings.scopes, scope.name = name ∧ Declares scope.text member.name

instance (bindings : Bindings) (name : String) (member : ScopeMember) :
    Decidable (bindings.IsDeclared name member) :=
  inferInstanceAs (Decidable (∃ scope ∈ _, _))

end Bindings

variable {selection : Selection} {document : Value} {bindings : Bindings}

/-- A document has bindings if it has a mapping of paths and each selected operation can be built. -/
theorem bindingsOf_eq_ok_iff : bindingsOf selection document = .ok bindings ↔
    (∃ entries, document.get? "paths" = some (.map entries)) ∧
      (selection.operations document).mapM (selection.context document).build
        = .ok bindings.operations := by
  rw [bindingsOf, Selection.operations]
  split
  case h_1 entries hpaths =>
    rw [hpaths]
    dsimp only
    constructor
    · intro h
      refine ⟨⟨entries, rfl⟩, ?_⟩
      split at h
      case h_1 built hbuilt =>
        cases h
        exact hbuilt
      case h_2 => cases h
    · rintro ⟨-, hbuilt⟩
      split
      case h_1 built hbuilt' =>
        rw [Except.ok.inj (hbuilt'.symm.trans hbuilt)]
      case h_2 e he => cases he.symm.trans hbuilt
  case h_2 hnone =>
    constructor
    · exact nofun
    · rintro ⟨⟨entries, hpaths⟩, -⟩
      exact absurd hpaths (hnone entries)

/-- **A member that a function refers to is declared exactly when there is something to declare for it**, in
the operation of the function or in another one with the same namespace. A function refers to what the
document presents. -/
theorem isDeclared_iff_hasToDeclare (h : bindingsOf selection document = .ok bindings)
    {f : ServiceFunction} {types : TypeScope} (hmem : (f, types) ∈ bindings.operations) :
    ∃ operation ∈ selection.operations document,
      (selection.context document).build operation = .ok (f, types) ∧
      ∀ member,
        (f.RefersTo member ↔ (selection.context document).Presents operation member) ∧
        (bindings.IsDeclared f.scope member ↔ ∃ other ∈ selection.operations document,
          (selection.context document).scopeOf other = f.scope ∧
          (selection.context document).HasToDeclare other member) := by
  have hbuilds := forall₂_of_mapM_eq_ok (bindingsOf_eq_ok_iff.mp h).2
  obtain ⟨operation, hoperation, hbuild⟩ := exists_mem_left_of_forall₂ hbuilds hmem
  refine ⟨operation, hoperation, hbuild, fun member => ⟨?_, ?_⟩⟩
  · exact (OperationContext.built_of_build hbuild).refersTo_iff member
  -- several operations may share the namespace, so all of them count here
  · constructor
    · rintro ⟨scope, hscope, hname, hdeclares⟩
      obtain ⟨⟨g, scope⟩, hpair, rfl⟩ := List.mem_map.mp hscope
      obtain ⟨other, hother, hbuild'⟩ := exists_mem_left_of_forall₂ hbuilds hpair
      have hbuilt := OperationContext.built_of_build hbuild'
      exact ⟨other, hother, hbuilt.name_eq.symm.trans hname, (hbuilt.declares_iff member).mp hdeclares⟩
    · rintro ⟨other, hother, hname, hfound⟩
      obtain ⟨⟨g, scope⟩, hpair, hbuild'⟩ := exists_mem_right_of_forall₂ hbuilds hother
      have hbuilt := OperationContext.built_of_build hbuild'
      exact ⟨scope, List.mem_map.mpr ⟨(g, scope), hpair, rfl⟩, hbuilt.name_eq.trans hname,
        (hbuilt.declares_iff member).mpr hfound⟩

/-! ## A document with one parameter -/

/-- An operation that lists widgets, with one parameter in a given place. -/
def listWidgets (place : String) : Operation :=
  ⟨"/widgets", "get",
    [(.text "parameters", .list [.map [(.text "in", .text place), (.text "name", .text "page")]])]⟩

/-- A document with this operation only. -/
def widgets (place : String) : Value :=
  .map [(.text "paths", .map [(.text "/widgets",
    .map [(.text "get", .map (listWidgets place).entries)])])]

/-- All operations of the document. -/
theorem operations_widgets (place : String) :
    Selection.operations {} (widgets place) = [listWidgets place] := by
  simp [Selection.operations, widgets, listWidgets, operationsOf, selectPaths, pathItems, operationsAt,
    httpMethods, Value.get?, Value.lookupText]

/-- The bindings of the document, if its operation can be built. -/
theorem bindingsOf_widgets {place : String} {pair : ServiceFunction × TypeScope}
    (h : OperationContext.build ⟨widgets place, "", []⟩ (listWidgets place) = .ok pair) :
    bindingsOf {} (widgets place) = .ok ⟨[pair]⟩ := by
  rw [bindingsOf_eq_ok_iff, operations_widgets]
  refine ⟨⟨_, rfl⟩, ?_⟩
  show [listWidgets place].mapM (OperationContext.build ⟨widgets place, "", []⟩) = .ok [pair]
  rw [List.mapM_cons, h]
  rfl

/-- A parameter of the query is referred to and declared. -/
theorem isDeclared_widgets_query : ∃ bindings f types,
    bindingsOf {} (widgets "query") = .ok bindings ∧ (f, types) ∈ bindings.operations ∧
      f.RefersTo .params ∧ bindings.IsDeclared f.scope .params := by
  have hbuild : OperationContext.build ⟨widgets "query", "", []⟩ (listWidgets "query") = .ok _ := rfl
  have hbindings := bindingsOf_widgets hbuild
  refine ⟨_, _, _, hbindings, List.mem_cons_self, by decide, ?_⟩
  obtain ⟨operation, hoperation, -, hiff⟩ := isDeclared_iff_hasToDeclare hbindings List.mem_cons_self
  refine (hiff .params).2.mpr ⟨operation, hoperation, ?_⟩
  rw [operations_widgets, List.mem_singleton] at hoperation
  rw [hoperation]
  exact ⟨rfl, rfl, _, rfl, _, List.mem_cons_self, rfl⟩

/-- A parameter of the header is referred to and not declared. -/
theorem not_isDeclared_widgets_header : ∃ bindings f types,
    bindingsOf {} (widgets "header") = .ok bindings ∧ (f, types) ∈ bindings.operations ∧
      f.RefersTo .params ∧ ¬ bindings.IsDeclared f.scope .params :=
  ⟨_, _, _, bindingsOf_widgets rfl, List.mem_cons_self, by decide, by decide⟩

end ServiceBindings
