import Mathlib.Data.List.Perm.Basic
import ZodValidators.Proofs.Reordering
import ZodValidators.Proofs.Sdl.FieldLines

/-!
# The order of definitions

Documents with the same definitions give the same metadata up to order, however the definitions are
ordered and spread over documents: types are looked up when all definitions are known, and an input
type has the fields of its definition and its extensions wherever they stand. This needs that no
enum and no field is defined twice, because of several definitions one goes before the others.
-/

set_option autoImplicit false

namespace ZodValidators

namespace Sdl

/-! ## Definitions up to order -/

/-- Metadata is made from the definition. Object types have a part in it when they are root types. -/
def Definition.isUsed : Definition → Bool
  | .scalar _ | .enumeration _ _ _ | .input _ _ _ => true
  | .object name _ => (rootKind? name).isSome
  | .other => false

/-- The definitions that are used are the same in some order. -/
def SameDefinitions (definitions others : List Definition) : Prop :=
  (definitions.filter Definition.isUsed).Perm (others.filter Definition.isUsed)

/-- No enum is defined twice, and no field twice in the definition and the extensions of one input
type. -/
structure DefinesOnce (definitions : List Definition) : Prop where
  enums : (definitions.filterMap Definition.enumName?).Nodup
  fields : ∀ name, (((inputParts name definitions).flatMap Prod.fst).map InputValue.name).Nodup

def Definition.scalarName? : Definition → Option String
  | .scalar name => some name
  | _ => none

theorem Definition.cases_of_not_isUsed {definition : Definition}
    (unused : definition.isUsed = false) :
    (∃ name fields, definition = .object name fields ∧ rootKind? name = none) ∨
      definition = .other := by
  cases definition with
  | scalar | enumeration | input => cases unused
  | object name fields => exact .inl ⟨name, fields, rfl, by simpa [isUsed] using unused⟩
  | other => exact .inr rfl

theorem Definition.rootFields_of_not_isUsed {definition : Definition}
    (unused : definition.isUsed = false) (kind : RootKind) : definition.rootFields kind = [] := by
  obtain ⟨name, fields, rfl, noRoot⟩ | rfl := cases_of_not_isUsed unused
  · have different : name ≠ rootTypeName kind := by
      rintro rfl
      cases kind <;> cases noRoot
    exact if_neg different
  · rfl

section SameDefinitions

variable {definitions others : List Definition}

theorem SameDefinitions.perm_flatMap {β : Type} {parts : Definition → List β}
    (same : SameDefinitions definitions others)
    (unused : ∀ definition, definition.isUsed = false → parts definition = []) :
    (definitions.flatMap parts).Perm (others.flatMap parts) := by
  have kept (all : List Definition) :
      all.flatMap parts = (all.filter Definition.isUsed).flatMap parts := by
    induction all with
    | nil => rfl
    | cons definition rest ih =>
        cases used : definition.isUsed with
        | true => simp [used, ih]
        | false => simp [used, ih, unused definition used]
  rw [kept definitions, kept others]
  exact same.flatMap_right parts

theorem SameDefinitions.perm_filterMap {β : Type} {choose : Definition → Option β}
    (same : SameDefinitions definitions others)
    (object : ∀ name fields, choose (.object name fields) = none) (other : choose .other = none) :
    (definitions.filterMap choose).Perm (others.filterMap choose) := by
  rw [List.filterMap_eq_flatMap_toList, List.filterMap_eq_flatMap_toList]
  apply same.perm_flatMap
  intro definition unused
  obtain ⟨name, fields, rfl, _⟩ | rfl := Definition.cases_of_not_isUsed unused
  · rw [object, Option.toList_none]
  · rw [other, Option.toList_none]

theorem SameDefinitions.perm_inputParts (same : SameDefinitions definitions others)
    (name : String) : (inputParts name definitions).Perm (inputParts name others) :=
  same.perm_filterMap (fun _ _ => rfl) rfl

theorem SameDefinitions.mem_enumNames_iff (same : SameDefinitions definitions others)
    {name : String} : name ∈ enumNames definitions ↔ name ∈ enumNames others := by
  have names : (definitions.filterMap Definition.enumName?).Perm
      (others.filterMap Definition.enumName?) := same.perm_filterMap (fun _ _ => rfl) rfl
  rw [enumNames, enumNames, List.mem_eraseDups, List.mem_eraseDups, names.mem_iff]

theorem SameDefinitions.mem_inputNames_iff (same : SameDefinitions definitions others)
    {name : String} : name ∈ inputNames definitions ↔ name ∈ inputNames others := by
  have names : (definitions.filterMap Definition.inputName?).Perm
      (others.filterMap Definition.inputName?) := same.perm_filterMap (fun _ _ => rfl) rfl
  rw [inputNames, inputNames, List.mem_eraseDups, List.mem_eraseDups, names.mem_iff]

theorem SameDefinitions.locatedField_eq (same : SameDefinitions definitions others)
    (value : InputValue) : value.locatedField definitions = value.locatedField others := by
  have place : placeOf definitions value.type.innermost = placeOf others value.type.innermost := by
    simp only [placeOf, same.mem_enumNames_iff, same.mem_inputNames_iff]
  rw [InputValue.locatedField, InputValue.locatedField, place]

theorem SameDefinitions.definesOnce (same : SameDefinitions definitions others)
    (once : DefinesOnce definitions) : DefinesOnce others where
  enums := by
    have names : (definitions.filterMap Definition.enumName?).Perm
        (others.filterMap Definition.enumName?) := same.perm_filterMap (fun _ _ => rfl) rfl
    exact names.nodup_iff.mp once.enums
  fields := fun name =>
    (((same.perm_inputParts name).flatMap_right _).map _).nodup_iff.mp (once.fields name)

end SameDefinitions

/-! ## Definitions that are not repeated -/

/-- When no name comes back, merging drops no field. -/
theorem keptFields_eq_flatten {seen : List String} {lists : List (List InputValue)}
    (unique : (seen ++ lists.flatten.map InputValue.name).Nodup) :
    keptFields seen lists = lists.flatten := by
  induction lists generalizing seen with
  | nil => rfl
  | cons fields rest ih =>
      rw [List.flatten_cons, List.map_append, ← List.append_assoc] at unique
      have apart := (List.nodup_append.mp (List.nodup_append.mp unique).1).2.2
      have new : fields.filter (fun field => field.name ∉ seen) = fields := by
        apply List.filter_eq_self.mpr
        intro field member
        apply decide_eq_true
        intro present
        exact apart _ present _ (List.mem_map_of_mem member) rfl
      rw [keptFields, new, ih unique, List.flatten_cons]

theorem DefinesOnce.inputFields_eq {definitions : List Definition}
    (once : DefinesOnce definitions) (name : String) :
    inputFields name definitions = (inputParts name definitions).flatMap Prod.fst := by
  have unique := once.fields name
  rw [List.flatMap_def] at unique
  rw [inputFields, keptFields_eq_flatten unique, List.flatMap_def]

theorem length_filterMap_enumType? (name : String) (definitions : List Definition) :
    (definitions.filterMap (Definition.enumType? name)).length =
      (definitions.filterMap Definition.enumName?).count name := by
  induction definitions with
  | nil => rfl
  | cons definition rest ih =>
      cases definition with
      | enumeration defined values description =>
          by_cases same : defined = name <;>
            simp [Definition.enumType?, Definition.enumName?, same, ih]
      | scalar | object | input | other =>
          rw [List.filterMap_cons_none rfl, List.filterMap_cons_none rfl, ih]

private theorem eq_of_perm_of_length_le_one {α : Type} {items others : List α}
    (perm : items.Perm others) (short : items.length ≤ 1) : items = others := by
  match items with
  | [] => exact perm.nil_eq
  | [item] => exact List.singleton_perm.mp perm

theorem DefinesOnce.filterMap_enumType?_eq {definitions others : List Definition}
    (once : DefinesOnce definitions) (same : SameDefinitions definitions others) (name : String) :
    definitions.filterMap (Definition.enumType? name) =
      others.filterMap (Definition.enumType? name) := by
  apply eq_of_perm_of_length_le_one (same.perm_filterMap (fun _ _ => rfl) rfl)
  rw [length_filterMap_enumType?]
  exact List.nodup_iff_count_le_one.mp once.enums name

end Sdl

/-! ## Metadata up to order -/

namespace Schema

theorem mem_scalars_collect {definitions : List Sdl.Definition} {name : Text} :
    name ∈ (collect definitions).scalars ↔
      name ∈ (definitions.filterMap Sdl.Definition.scalarName?).map Text.ofString := by
  induction definitions using List.reverseRecOn with
  | nil => rfl
  | append_singleton definitions definition ih =>
      rw [collect_concat, List.filterMap_append, List.map_append, List.mem_append, ← ih]
      cases definition with
      | scalar declared =>
          rw [addDefinition_scalar]
          by_cases known : (declared : Text) ∈ (collect definitions).scalars
          · have found : name = declared → name ∈ (collect definitions).scalars :=
              fun same => same ▸ known
            simpa [known, Sdl.Definition.scalarName?] using found
          · simp [known, Sdl.Definition.scalarName?]
      | object => rw [addDefinition_object]; simp [Sdl.Definition.scalarName?]
      | enumeration => simp [addDefinition, putEnum, Sdl.Definition.scalarName?]
      | input => rw [addDefinition_input]; simp [Sdl.Definition.scalarName?]
      | other => simp [addDefinition, Sdl.Definition.scalarName?]

variable {documents others : List Sdl.Document}

theorem find?_enums_ofDocuments_eq
    (same : Sdl.SameDefinitions documents.flatten others.flatten)
    (once : Sdl.DefinesOnce documents.flatten) (key : Text) :
    (ofDocuments documents).enums.find? key = (ofDocuments others).enums.find? key := by
  rw [ofDocuments_eq_locateAll, ofDocuments_eq_locateAll]
  show (collect documents.flatten).enums.find? key = (collect others.flatten).enums.find? key
  by_cases named : ∃ name : String, key = name
  · obtain ⟨name, rfl⟩ := named
    rw [find?_enums_collect, find?_enums_collect, once.filterMap_enumType?_eq same]
  · have absent (definitions : List Sdl.Definition) :
        (collect definitions).enums.find? key = none := by
      rw [Table.find?_eq_none_iff, keys_enums_collect, List.mem_map]
      intro ⟨name, _, spelled⟩
      exact named ⟨name, spelled.symm⟩
    rw [absent, absent]

theorem rel_find?_inputs_ofDocuments
    (same : Sdl.SameDefinitions documents.flatten others.flatten)
    (once : Sdl.DefinesOnce documents.flatten) (key : Text) :
    Option.Rel InputType.SameFields ((ofDocuments documents).inputs.find? key)
      ((ofDocuments others).inputs.find? key) := by
  by_cases named : ∃ name : String, key = name
  · obtain ⟨name, rfl⟩ := named
    have parts := same.perm_inputParts name
    have fields : ((Sdl.inputFields name documents.flatten).map
          (·.locatedField documents.flatten)).Perm
        ((Sdl.inputFields name others.flatten).map (·.locatedField others.flatten)) := by
      rw [once.inputFields_eq, (same.definesOnce once).inputFields_eq]
      simp only [same.locatedField_eq]
      exact (parts.flatMap_right _).map _
    rw [find?_inputs_ofDocuments, find?_inputs_ofDocuments]
    cases first : Sdl.inputParts name documents.flatten with
    | nil =>
        rw [first] at parts
        rw [← parts.nil_eq]
        exact .none
    | cons head rest =>
        cases second : Sdl.inputParts name others.flatten with
        | nil =>
            rw [first, second] at parts
            exact absurd parts.eq_nil (List.cons_ne_nil _ _)
        | cons => exact .some ⟨rfl, fields⟩
  · have absent (documents : List Sdl.Document) :
        (ofDocuments documents).inputs.find? key = none := by
      rw [Table.find?_eq_none_iff, keys_inputs_ofDocuments, List.mem_map]
      intro ⟨name, _, spelled⟩
      exact named ⟨name, spelled.symm⟩
    rw [absent, absent]
    exact .none

theorem perm_operationsOf_ofDocuments
    (same : Sdl.SameDefinitions documents.flatten others.flatten) (kind : RootKind) :
    ((ofDocuments documents).operationsOf kind).Perm ((ofDocuments others).operationsOf kind) := by
  rw [operationsOf_ofDocuments, operationsOf_ofDocuments]
  simp only [same.locatedField_eq]
  have fields := same.perm_flatMap fun _ unused =>
    Sdl.Definition.rootFields_of_not_isUsed unused kind
  exact fields.map _

/-- Documents with the same definitions in any order, of which none repeats another, give the same
metadata: the same scalars and enums, the same input types with the same fields, and the same
queries and mutations. So if one can be declared with a registry, the other can. -/
theorem reorders_ofDocuments
    (same : Sdl.SameDefinitions documents.flatten others.flatten)
    (once : Sdl.DefinesOnce documents.flatten) :
    (ofDocuments documents).Reorders (ofDocuments others) ∧
    ∀ options registry,
      (∃ generated, (ofDocuments documents).sections options registry = .ok generated) ↔
        ∃ generated, (ofDocuments others).sections options registry = .ok generated := by
  have reorders : (ofDocuments documents).Reorders (ofDocuments others) := {
    scalars := by
      have names : (documents.flatten.filterMap Sdl.Definition.scalarName?).Perm
          (others.flatten.filterMap Sdl.Definition.scalarName?) :=
        same.perm_filterMap (fun _ _ => rfl) rfl
      intro name
      rw [ofDocuments_eq_locateAll, ofDocuments_eq_locateAll]
      exact mem_scalars_collect.trans ((names.map _).mem_iff.trans mem_scalars_collect.symm)
    enums := Table.perm_entries (find?_enums_ofDocuments_eq same once)
    inputs := rel_find?_inputs_ofDocuments same once
    queries := perm_operationsOf_ofDocuments same .query
    mutations := perm_operationsOf_ofDocuments same .mutation }
  refine ⟨reorders, fun options registry => ⟨?_, ?_⟩⟩
  · exact reorders.exists_sections
  · exact reorders.symm.exists_sections

def memberDefinitions : Sdl.Document := [
  .input "Member" [{ name := "email", type := .named "Email" true }] (some "A member."),
  .input "Member" [{ name := "role", type := .named "Role" false }] none,
  .enumeration "Role" ["ADMIN"] none,
  .scalar "Email",
  .object "Query" [{ name := "find", arguments := [{ name := "by", type := .named "Member" true }] }]]

theorem reorders_memberDefinitions :
    Sdl.SameDefinitions [memberDefinitions].flatten [[.other], memberDefinitions.reverse].flatten ∧
    Sdl.DefinesOnce [memberDefinitions].flatten ∧
    (ofDocuments [memberDefinitions]).Reorders
      (ofDocuments [[.other], memberDefinitions.reverse]) ∧
    ∃ generated, (ofDocuments [[.other], memberDefinitions.reverse]).sections {}
      (Registry.default.register "Email" "string") = .ok generated := by
  have same : Sdl.SameDefinitions [memberDefinitions].flatten
      [[.other], memberDefinitions.reverse].flatten := memberDefinitions.reverse_perm.symm
  have once : Sdl.DefinesOnce [memberDefinitions].flatten := {
    enums := by decide
    fields := by
      intro name
      by_cases member : "Member" = name
      · subst name
        decide
      · have parts : Sdl.inputParts name [memberDefinitions].flatten = [] := by
          rw [Sdl.inputParts, List.filterMap_eq_nil_iff]
          simp [memberDefinitions, Sdl.Definition.inputPart?, member]
        rw [parts]
        exact List.nodup_nil }
  obtain ⟨reorders, declared⟩ := reorders_ofDocuments same once
  exact ⟨same, once, reorders, (declared _ _).mp ⟨_, rfl⟩⟩

end Schema

end ZodValidators
