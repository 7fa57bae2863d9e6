import ServiceBindings.Module.Types
import ServiceBindings.Proofs.Operation.Assembly
import ServiceBindings.Proofs.Operation.Members

/-! # The namespaces that the services module imports

The services module is a head with the imports and one text for each function, and the text of a function is put
together from `FunctionParts`: it **mentions** the type of the response and those of the arguments `params` and
`data`. The imports are computed from the types of all functions (`ServiceFunction.refersToScope`), while an argument
is written only where its own conditions say so: the parameters unless the path holds the identifier, and the body if
there is one. **What is written is what is imported**: the text of a function that was built mentions a member of a
namespace exactly if the function refers to it (`OperationContext.mentionsScope_parts_iff`).

The functions are passed one after the other, and each adds its namespace at the end unless it stands there
already (`typeImports_concat`). So the imports are without repetition, in the order of first use, and exact
(`firstUses_typeImports`), and every one of them is declared in the types module (`typeImports_exact`). -/

namespace ServiceBindings

/-! ## The parts of the services module -/

/-- What the text of a service function is put together from. -/
structure FunctionParts where
  /-- Its documentation block. -/
  block : String
  /-- Its name. -/
  name : String
  /-- Its arguments, each with its type. -/
  arguments : List String
  /-- The type of its response. -/
  response : String
  /-- The lines of its request. -/
  request : String

namespace FunctionParts

/-- The text of a function with given parts. -/
def text (p : FunctionParts) : String :=
  p.block ++ "export const " ++ p.name ++ " = (" ++ Text.join ", " p.arguments ++ ") =>\n" ++
    "  request<" ++ p.response ++ ">(\x7b\n" ++ p.request ++ "  \x7d);\n\n"

/-- The text of a function mentions a type: as that of its response, of its argument `params` or of its argument
`data`. -/
inductive Mentions (p : FunctionParts) (type : String) : Prop
  /-- As that of its response. -/
  | response (h : p.response = type)
  /-- As that of its argument `params`. -/
  | params (h : "params: " ++ type ∈ p.arguments)
  /-- As that of its argument `data`. -/
  | data (h : "data: " ++ type ∈ p.arguments)

/-- The text of a function mentions a member of a namespace. -/
def MentionsScope (p : FunctionParts) (scope : String) : Prop :=
  ∃ member : ScopeMember, p.Mentions (member.qualified scope)

/-- The parts of the text of a function, with its block and under its name. -/
structure IsOf (p : FunctionParts) (f : ServiceFunction) : Prop where
  /-- The parts make up the text. -/
  text_eq : f.text .standard = p.text
  /-- The block is that of the function. -/
  block_eq : p.block = Documentation.ofFunction f
  /-- The name is that of the function. -/
  name_eq : p.name = f.name

end FunctionParts

/-- What the services module is put together from. -/
structure ServicesParts where
  /-- The namespaces that it imports. -/
  imports : List String
  /-- The module that it imports them from. -/
  origin : String
  /-- Its functions. -/
  functions : List FunctionParts

/-- The text of a services module with given parts. -/
def ServicesParts.text (m : ServicesParts) : String :=
  banner ++ "import request from './request';\n" ++ importLines m.imports m.origin ++
    .join (m.functions.map FunctionParts.text)

/-- A module declares a namespace, with a text between its braces. -/
def DeclaresNamespace (module scope body : String) : Prop :=
  ∃ before after, module = before ++ "\nexport namespace " ++ scope ++ " \x7b\n" ++ body ++ "\x7d\n" ++ after

namespace ServiceFunction

/-- The parts of the text of a function. -/
def parts (f : ServiceFunction) : FunctionParts where
  block := Documentation.ofFunction f
  name := f.name
  arguments := f.arguments
  response := f.responseType
  request := "    url: `" ++ f.requestPath ++ "`,\n" ++ "    method: '" ++ f.method ++ "',\n" ++
    f.dataLines ++ f.optionLines

/-- The parts make up the text of a function. -/
theorem isOf_parts (f : ServiceFunction) : f.parts.IsOf f := by
  refine ⟨?_, rfl, rfl⟩
  unfold text FunctionParts.text parts
  simp only [Templates.standard, TemplatePart.text_standard, String.append_assoc]

/-- The services module is put together from its imports and the parts of its functions. -/
theorem servicesModule_eq_text (typesFileName : String) (functions : List ServiceFunction) :
    servicesModule .standard typesFileName functions =
      (ServicesParts.mk (typeImports functions) (moduleName typesFileName) (functions.map parts)).text := by
  have htexts : functions.map (·.text .standard) = (functions.map parts).map FunctionParts.text := by
    rw [List.map_map]
    exact List.map_congr_left fun f _ => f.isOf_parts.text_eq
  rw [ServicesParts.text, ← htexts]
  rfl

/-! ## Types that a function mentions -/

/-- Texts behind marks that begin differently are different. -/
theorem append_ne_append {mark other : String} {c d : Char} {cs ds : List Char} (hmark : mark.toList = c :: cs)
    (hother : other.toList = d :: ds) (hne : c ≠ d) (text text' : String) : mark ++ text ≠ other ++ text' := by
  intro heq
  have hchars := congrArg String.toList heq
  rw [String.toList_append, String.toList_append, hmark, hother] at hchars
  exact hne (List.cons.inj hchars).1

/-- The argument `params` is written if there are parameters and the path does not hold the identifier. -/
theorem params_mem_arguments_iff {f : ServiceFunction} {type : String} :
    "params: " ++ type ∈ f.arguments ↔ f.hasId = false ∧ f.hasParams = true ∧ f.paramsType = type := by
  have hid : ∀ text, "params: " ++ type ≠ "id: " ++ text := append_ne_append rfl rfl (by decide) type
  have hdata : ∀ text, "params: " ++ type ≠ "data: " ++ text := append_ne_append rfl rfl (by decide) type
  unfold arguments
  cases f.hasId <;> cases f.hasParams <;> cases f.hasBody <;>
    simp only [List.mem_append, List.mem_singleton, List.not_mem_nil, hid, hdata, String.append_right_inj, eq_comm,
      if_true, if_false, Bool.false_eq_true, true_and, false_and, or_false]

/-- The argument `data` is written if there is a body. -/
theorem data_mem_arguments_iff {f : ServiceFunction} {type : String} :
    "data: " ++ type ∈ f.arguments ↔ f.hasBody = true ∧ f.bodyType = type := by
  have hid : ∀ text, "data: " ++ type ≠ "id: " ++ text := append_ne_append rfl rfl (by decide) type
  have hparams : ∀ text, "data: " ++ type ≠ "params: " ++ text := append_ne_append rfl rfl (by decide) type
  unfold arguments
  cases f.hasId <;> cases f.hasParams <;> cases f.hasBody <;>
    simp only [List.mem_append, List.mem_singleton, List.not_mem_nil, hid, hparams, String.append_right_inj, eq_comm,
      if_true, if_false, Bool.false_eq_true, true_and, false_and, or_false, false_or]

end ServiceFunction

namespace OperationContext

variable {c : OperationContext} {operation : Operation} {f : ServiceFunction} {types : TypeScope}

/-- The flags of a function tell what the operation has. -/
theorem flags_of_build (h : c.build operation = .ok (f, types)) :
    f.hasId = Naming.hasId (c.pathOf operation) ∧ f.hasBody = (body? operation.entries).isSome ∧
      ∃ parameters, c.parameters operation.entries = .ok parameters ∧ f.hasParams = !parameters.isEmpty := by
  obtain ⟨params, bodyText, responseText, hparams, -, -, hpair⟩ := build_eq_ok_iff.mp h
  simp only [paramsPart, ite_bind, bind_eq_ok_iff] at hparams
  obtain ⟨parameters, hparameters, type, -, text, -, hparams⟩ := hparams
  cases hpair
  cases hparams
  exact ⟨rfl, rfl, parameters, hparameters, rfl⟩

/-- **The text of a function mentions each type that is a member**: the conditions on the arguments are met where
the document presents the member. -/
theorem mentions_parts_iff (h : c.build operation = .ok (f, types)) {member : ScopeMember} {name : String} :
    f.parts.Mentions (member.qualified name) ↔ ∃ other, f.memberType other = member.qualified name := by
  constructor
  · rintro (heq | hparams | hdata)
    · exact ⟨.response, heq⟩
    · exact ⟨.params, (ServiceFunction.params_mem_arguments_iff.mp hparams).2.2⟩
    · exact ⟨.body, (ServiceFunction.data_mem_arguments_iff.mp hdata).2⟩
  · rintro ⟨other, heq⟩
    have hpresents := ((built_of_build h).memberType_eq_iff.mp heq).1
    obtain ⟨hid, hbody, parameters, hparameters, hparams⟩ := flags_of_build h
    cases other with
    | params =>
        obtain ⟨hno, parameters', hparameters', hne⟩ := hpresents
        cases hparameters.symm.trans hparameters'
        refine .params (ServiceFunction.params_mem_arguments_iff.mpr ⟨hid.trans hno, ?_, heq⟩)
        rw [hparams, List.isEmpty_eq_false_iff.mpr hne]
        rfl
    | body => exact .data (ServiceFunction.data_mem_arguments_iff.mpr ⟨hbody.trans hpresents, heq⟩)
    | response => exact .response heq

/-- A type of a function stands in its namespace if the document presents the member. -/
theorem isMemberOf_memberType_iff (h : c.Built operation f types) (member : ScopeMember) :
    isMemberOf f.scope (f.memberType member) = true ↔ c.Presents operation member := by
  rw [isMemberOf, Text.beginsWith, List.isPrefixOf_iff_prefix]
  rcases h.memberType_cases member with ⟨hpresents, htype⟩ | ⟨habsent, hpoint⟩
  · refine iff_of_true ?_ hpresents
    rw [htype, ScopeMember.qualified, String.toList_append (s := f.scope ++ ".")]
    exact List.prefix_append _ _
  · refine iff_of_false (fun hbegins => hpoint (hbegins.subset ?_)) habsent
    rw [String.toList_append]
    exact List.mem_append_right _ (by decide)

/-- A function refers to its namespace if the document presents one of its members. -/
theorem refersToScope_iff (h : c.Built operation f types) :
    f.refersToScope = true ↔ ∃ member, c.Presents operation member := by
  simp only [← isMemberOf_memberType_iff h, ServiceFunction.refersToScope, List.any_eq_true, List.mem_cons,
    List.not_mem_nil, or_false]
  constructor
  · rintro ⟨type, rfl | rfl | rfl, hmember⟩
    · exact ⟨.params, hmember⟩
    · exact ⟨.body, hmember⟩
    · exact ⟨.response, hmember⟩
  · rintro ⟨member, hmember⟩
    refine ⟨_, ?_, hmember⟩
    cases member with
    | params => exact .inl rfl
    | body => exact .inr (.inl rfl)
    | response => exact .inr (.inr rfl)

/-- **The text of a function mentions the namespace that the function refers to, and no other one.** -/
theorem mentionsScope_parts_iff (h : c.build operation = .ok (f, types)) {scope : String} :
    f.parts.MentionsScope scope ↔ f.refersToScope = true ∧ scope = f.scope := by
  simp only [FunctionParts.MentionsScope, mentions_parts_iff h, refersToScope_iff (built_of_build h),
    (built_of_build h).memberType_eq_iff]
  constructor
  · rintro ⟨member, other, hpresents, rfl, hname⟩
    exact ⟨⟨_, hpresents⟩, hname⟩
  · rintro ⟨⟨member, hpresents⟩, hname⟩
    exact ⟨member, member, hpresents, rfl, hname⟩

end OperationContext

/-! ## One function after the other -/

/-- A function adds its namespace at the end, if it refers to it and it is not imported already. -/
theorem typeImports_concat (functions : List ServiceFunction) (f : ServiceFunction) :
    typeImports (functions ++ [f]) = typeImports functions ++
      if f.refersToScope = true ∧ f.scope ∉ typeImports functions then [f.scope] else [] := by
  have hnew : ∀ scopes : List String,
      ([f.scope].removeAll scopes).eraseDups = if f.scope ∉ scopes then [f.scope] else [] := by
    intro scopes
    by_cases hmem : f.scope ∈ scopes <;> simp [List.cons_removeAll, List.eraseDups_cons, hmem]
  simp only [typeImports, List.filter_append, List.map_append, List.eraseDups_append, List.mem_eraseDups]
  cases hrefers : f.refersToScope with
  | false => simp [hrefers]
  | true => simp [hrefers, hnew]

/-- Of two namespaces the first is mentioned by some function, and the second by neither this one nor any before
it. -/
def MentionedBefore (functions : List FunctionParts) (scope later : String) : Prop :=
  ∃ before f after, functions = before ++ f :: after ∧ f.MentionsScope scope ∧
    ∀ g ∈ before ++ [f], ¬ g.MentionsScope later

/-- A further function does not change which namespace was mentioned first. -/
theorem MentionedBefore.concat {functions : List FunctionParts} {scope later : String}
    (h : MentionedBefore functions scope later) (f : FunctionParts) :
    MentionedBefore (functions ++ [f]) scope later := by
  obtain ⟨before, g, after, rfl, hscope, hlater⟩ := h
  exact ⟨before, g, after ++ [f], by rw [List.append_assoc, List.cons_append], hscope, hlater⟩

/-- A namespace that no function mentions comes behind one that some function mentions. -/
theorem mentionedBefore_of_forall {functions : List FunctionParts} {scope later : String}
    (hscope : ∃ f ∈ functions, f.MentionsScope scope) (hlater : ∀ f ∈ functions, ¬ f.MentionsScope later) :
    MentionedBefore functions scope later := by
  obtain ⟨f, hf, hscope⟩ := hscope
  obtain ⟨before, after, rfl⟩ := List.append_of_mem hf
  refine ⟨before, f, after, rfl, hscope, fun g hg => hlater g ?_⟩
  rw [← List.singleton_append, ← List.append_assoc]
  exact List.mem_append_left _ hg

/-- The first uses of namespaces among functions: each namespace once, in the order in which they are first
mentioned, and all that are mentioned. -/
structure FirstUses (functions : List FunctionParts) (scopes : List String) : Prop where
  /-- No namespace is repeated. -/
  nodup : scopes.Nodup
  /-- The namespaces are in the order in which they are first mentioned. -/
  pairwise : scopes.Pairwise (MentionedBefore functions)
  /-- The namespaces are those that a function mentions. -/
  mem_iff : ∀ scope, scope ∈ scopes ↔ ∃ f ∈ functions, f.MentionsScope scope

/-- A function that mentions nothing new does not change the first uses. -/
theorem FirstUses.concat_old {functions : List FunctionParts} {scopes : List String}
    (h : FirstUses functions scopes) {f : FunctionParts}
    (hold : ∀ scope, f.MentionsScope scope → scope ∈ scopes) : FirstUses (functions ++ [f]) scopes := by
  refine ⟨h.nodup, h.pairwise.imp fun hbefore => hbefore.concat f, fun scope => ?_⟩
  constructor
  · intro hmem
    obtain ⟨g, hg, hmentions⟩ := (h.mem_iff scope).mp hmem
    exact ⟨g, List.mem_append_left _ hg, hmentions⟩
  · rintro ⟨g, hg, hmentions⟩
    rcases List.mem_append.mp hg with hg | hg
    · exact (h.mem_iff scope).mpr ⟨g, hg, hmentions⟩
    · rw [List.mem_singleton.mp hg] at hmentions
      exact hold scope hmentions

/-- A function that mentions one namespace, a new one, adds it at the end. -/
theorem FirstUses.concat_new {functions : List FunctionParts} {scopes : List String}
    (h : FirstUses functions scopes) {f : FunctionParts} {name : String}
    (hmentions : ∀ scope, f.MentionsScope scope ↔ scope = name) (hnew : name ∉ scopes) :
    FirstUses (functions ++ [f]) (scopes ++ [name]) := by
  have hunmentioned : ∀ g ∈ functions, ¬ g.MentionsScope name := fun g hg hname =>
    hnew ((h.mem_iff name).mpr ⟨g, hg, hname⟩)
  refine ⟨?_, ?_, fun scope => ?_⟩
  · rw [← List.concat_eq_append, List.nodup_concat]
    exact ⟨hnew, h.nodup⟩
  · rw [List.pairwise_append]
    refine ⟨h.pairwise.imp fun hbefore => hbefore.concat f, List.pairwise_singleton _ _, ?_⟩
    intro scope hscope later hlater
    rw [List.mem_singleton.mp hlater]
    exact (mentionedBefore_of_forall ((h.mem_iff scope).mp hscope) hunmentioned).concat f
  · simp only [List.mem_append, List.mem_singleton, h.mem_iff, or_and_right, exists_or, exists_eq_left, hmentions]

/-- **The imports are the first uses**, of functions whose texts mention what they refer to. -/
theorem firstUses_typeImports {functions : List ServiceFunction}
    (h : ∀ f ∈ functions, ∀ scope, f.parts.MentionsScope scope ↔ f.refersToScope = true ∧ scope = f.scope) :
    FirstUses (functions.map ServiceFunction.parts) (typeImports functions) := by
  -- the functions are passed from the first to the last, so the last one comes off first
  induction functions using List.reverseRecOn with
  | nil => exact ⟨List.nodup_nil, .nil, fun scope => by simp [typeImports]⟩
  | append_singleton functions f ih =>
      have hrest := ih fun g hg => h g (List.mem_append_left _ hg)
      have hlast := h f (List.mem_append_right _ (List.mem_singleton_self f))
      rw [typeImports_concat, List.map_append, List.map_singleton]
      split
      case isTrue hadds =>
        exact hrest.concat_new (fun scope => (hlast scope).trans (and_iff_right hadds.1)) hadds.2
      case isFalse hkeeps =>
        rw [List.append_nil]
        refine hrest.concat_old fun scope hmentions => ?_
        obtain ⟨hrefers, rfl⟩ := (hlast scope).mp hmentions
        exact not_not.mp fun hnew => hkeeps ⟨hrefers, hnew⟩

/-! ## The imports of bindings -/

/-- Each namespace is declared in the types module, with its declarations between the braces. -/
theorem declaresNamespace_typesModule {scopes : List TypeScope} {types : TypeScope} (h : types ∈ scopes) :
    DeclaresNamespace (typesModule .standard scopes) types.name types.bodyLines := by
  obtain ⟨before, after, hmodule⟩ := exists_typesModule_eq h
  -- the block in front of the namespace ends with a line feed, and the namespace with two
  have hmark : " */\n" = " */" ++ "\n" := rfl
  have hopen : "\nexport namespace " = "\n" ++ "export namespace " := rfl
  have hclose : "\x7d\n\n" = "\x7d\n" ++ "\n" := rfl
  refine ⟨before ++ ("/**\n" ++ Documentation.optionalLine " * " types.summary ++
    Documentation.requestLine types.method types.path ++ " */"), "\n" ++ after, ?_⟩
  simp only [hmodule, TypeScope.moduleText, Documentation.ofScope, hmark, hopen, hclose, String.append_assoc]

variable {selection : Selection} {document : Value} {bindings : Bindings}

/-- **The imports are exact.** The services module is put together from imports and functions, one for each of the
bindings in order, and the imports are the first uses of namespaces in the texts of the functions: each namespace
once, in the order in which they are first mentioned, and exactly those that are mentioned. The types module
declares each of them. -/
theorem typeImports_exact (h : bindingsOf selection document = .ok bindings) (typesFileName : String) :
    ∃ m : ServicesParts, servicesModule .standard typesFileName bindings.functions = m.text ∧
      m.imports = typeImports bindings.functions ∧
      List.Forall₂ FunctionParts.IsOf m.functions bindings.functions ∧
      FirstUses m.functions m.imports ∧
      ∀ scope ∈ m.imports, ∃ types ∈ bindings.scopes, types.name = scope ∧
        DeclaresNamespace (typesModule .standard bindings.scopes) scope types.bodyLines := by
  have hbuilds := forall₂_of_mapM_eq_ok (bindingsOf_eq_ok_iff.mp h).2
  have hbuilt : ∀ f ∈ bindings.functions, ∃ operation types, types ∈ bindings.scopes ∧
      (selection.context document).build operation = .ok (f, types) := by
    intro f hf
    obtain ⟨⟨f, types⟩, hpair, rfl⟩ := List.mem_map.mp hf
    obtain ⟨operation, -, hbuild⟩ := exists_mem_left_of_forall₂ hbuilds hpair
    exact ⟨operation, types, List.mem_map.mpr ⟨(f, types), hpair, rfl⟩, hbuild⟩
  have huses : FirstUses (bindings.functions.map ServiceFunction.parts) (typeImports bindings.functions) :=
    firstUses_typeImports fun f hf scope => by
      obtain ⟨operation, types, -, hbuild⟩ := hbuilt f hf
      exact OperationContext.mentionsScope_parts_iff hbuild
  have hparts : List.Forall₂ FunctionParts.IsOf (bindings.functions.map ServiceFunction.parts)
      bindings.functions := by
    rw [List.forall₂_map_left_iff, List.forall₂_same]
    exact fun f _ => f.isOf_parts
  refine ⟨_, ServiceFunction.servicesModule_eq_text typesFileName _, rfl, hparts, huses, fun scope hscope => ?_⟩
  -- what is imported is mentioned by a function, which was built together with the namespace
  obtain ⟨_, hmem, hmentions⟩ := (huses.mem_iff scope).mp hscope
  obtain ⟨f, hf, rfl⟩ := List.mem_map.mp hmem
  obtain ⟨operation, types, htypes, hbuild⟩ := hbuilt f hf
  have hscope' := ((OperationContext.mentionsScope_parts_iff hbuild).mp hmentions).2
  have hname : types.name = scope := by
    rw [hscope', (OperationContext.headed_of_build hbuild).name_eq]
  exact ⟨types, htypes, hname, hname ▸ declaresNamespace_typesModule htypes⟩

/-- The one operation of the document mentions its namespace, which is imported and declared. -/
theorem typeImports_exact_widgets : ∃ bindings, bindingsOf {} (widgets "query") = .ok bindings ∧
    typeImports bindings.functions = ["NSGetWidgets"] ∧
    ∃ m : ServicesParts, servicesModule .standard "types.ts" bindings.functions = m.text ∧
      m.imports = ["NSGetWidgets"] ∧ FirstUses m.functions m.imports := by
  obtain ⟨pair, hbuild, himports⟩ : ∃ pair,
      OperationContext.build ⟨widgets "query", "", []⟩ (listWidgets "query") = .ok pair ∧
      typeImports [pair.1] = ["NSGetWidgets"] := ⟨_, rfl, by decide⟩
  have hbindings := bindingsOf_widgets hbuild
  obtain ⟨m, htext, hm, -, huses, -⟩ := typeImports_exact hbindings "types.ts"
  exact ⟨_, hbindings, himports, m, htext, hm.trans himports, huses⟩

end ServiceBindings
