import Mathlib.Data.List.Nodup
import ZodValidators.Proofs.Sdl.FieldLines

/-!
# Names of declarations

Enums and input types are declared under their own names, and the arguments of a root field under a
name that is made from the field's. Nothing keeps these names apart from each other: two root fields
may get one name, also when one is a query and the other a mutation, and it may be that of a type. A
module declares no name twice exactly when this does not happen.
-/

set_option autoImplicit false

namespace ZodValidators

namespace Sdl

/-- The names that the arguments of the root fields are declared under, first those of queries. -/
def argumentNames (definitions : List Definition) : List Text :=
  (rootFields .query definitions ++ rootFields .mutation definitions).map fun field =>
    Naming.pascalCase field.name ++ "Args"

def Definition.typeName? : Definition → Option String
  | .scalar name | .enumeration name _ _ | .object name _ | .input name _ _ => some name
  | .other => none

end Sdl

namespace Schema

/-! ## Names of types -/

theorem nodup_enumNames (definitions : List Sdl.Definition) : (Sdl.enumNames definitions).Nodup :=
  .of_map Text.ofString (keys_enums_collect definitions ▸ Table.nodup_keys _)

theorem nodup_inputNames (definitions : List Sdl.Definition) : (Sdl.inputNames definitions).Nodup :=
  .of_map Text.ofString (keys_inputs_collect definitions ▸ Table.nodup_keys _)

theorem nodup_types_iff (definitions : List Sdl.Definition) :
    (Sdl.enumNames definitions ++ Sdl.inputNames definitions).Nodup ↔
      ∀ name ∈ Sdl.enumNames definitions, name ∉ Sdl.inputNames definitions := by
  simp only [List.nodup_append, nodup_enumNames, nodup_inputNames, true_and]
  constructor
  · intro apart name enumeration input
    exact apart name enumeration name input rfl
  · intro apart name enumeration other input same
    exact apart name enumeration (same ▸ input)

/-! ## Names of declarations -/

theorem map_name_of_sections_eq_ok {options : Options} {registry : Registry} {schema : Schema}
    {generated : List Section} (built : schema.sections options registry = .ok generated) :
    (generated.flatMap Section.declarations).map Declaration.name =
      schema.subjects.map Subject.name := by
  have named := map_name_of_declarations_eq_ok (declarations_of_sections_eq_ok built)
  have second := congrArg (List.map Prod.snd) named
  rw [List.map_map, List.map_map] at second
  exact second

/-- Putting the schema's own enums first changes the order of the names only. -/
theorem perm_names_subjects (schema : Schema) :
    (schema.subjects.map Subject.name).Perm
      (schema.enums.values.map EnumType.name ++ schema.inputs.values.map InputType.name ++
        schema.operations.map Operation.argumentsName) := by
  have names : schema.subjects.map Subject.name =
      (schema.nativeEnums ++ schema.modelEnums).map EnumType.name ++
        schema.inputs.values.map InputType.name ++
        schema.operations.map Operation.argumentsName := by
    simp only [subjects, List.map_append, List.map_map]
    rfl
  have enums : (schema.nativeEnums ++ schema.modelEnums).Perm schema.enums.values :=
    List.filter_append_perm EnumType.isNative schema.enums.values
  rw [names]
  exact ((enums.map EnumType.name).append_right _).append_right _

theorem map_argumentsName_ofDocuments (documents : List Sdl.Document) :
    (ofDocuments documents).operations.map Operation.argumentsName =
      Sdl.argumentNames documents.flatten := by
  have shown := congrArg (List.map Prod.fst) (operations_ofDocuments documents)
  rw [List.map_map, List.map_map] at shown
  exact shown

theorem perm_names_ofDocuments {options : Options} {registry : Registry}
    {documents : List Sdl.Document} {generated : List Section}
    (built : (ofDocuments documents).sections options registry = .ok generated) :
    ((generated.flatMap Section.declarations).map Declaration.name).Perm
      ((Sdl.enumNames documents.flatten).map Text.ofString ++
        (Sdl.inputNames documents.flatten).map Text.ofString ++
        Sdl.argumentNames documents.flatten) := by
  have inputs : (ofDocuments documents).inputs.values.map InputType.name =
      (Sdl.inputNames documents.flatten).map Text.ofString := by
    rw [inputs_ofDocuments, List.map_map]
    rfl
  rw [map_name_of_sections_eq_ok built, ← map_name_enums_ofDocuments, ← inputs,
    ← map_argumentsName_ofDocuments]
  exact perm_names_subjects _

theorem nodup_names_iff {options : Options} {registry : Registry}
    {documents : List Sdl.Document} {generated : List Section}
    (built : (ofDocuments documents).sections options registry = .ok generated) :
    ((generated.flatMap Section.declarations).map Declaration.name).Nodup ↔
      (Sdl.enumNames documents.flatten ++ Sdl.inputNames documents.flatten).Nodup ∧
      (Sdl.argumentNames documents.flatten).Nodup ∧
      ∀ name, name ∈ Sdl.enumNames documents.flatten ∨ name ∈ Sdl.inputNames documents.flatten →
        (name : Text) ∉ Sdl.argumentNames documents.flatten := by
  have injective : Function.Injective Text.ofString := fun _ _ => Text.ofString_injective
  have free : (∀ first ∈ (Sdl.enumNames documents.flatten ++
          Sdl.inputNames documents.flatten).map Text.ofString,
        ∀ second ∈ Sdl.argumentNames documents.flatten, first ≠ second) ↔
      ∀ name, name ∈ Sdl.enumNames documents.flatten ∨ name ∈ Sdl.inputNames documents.flatten →
        (name : Text) ∉ Sdl.argumentNames documents.flatten := by
    rw [List.forall_mem_map]
    simp only [List.mem_append]
    constructor
    · intro different name type arguments
      exact different name type name arguments rfl
    · intro different name type second arguments same
      exact different name type (same ▸ arguments)
  rw [(perm_names_ofDocuments built).nodup_iff, ← List.map_append, List.nodup_append, free,
    List.nodup_map_iff injective]

/-- The declarations of documents have pairwise distinct names exactly when no enum has the name of
an input type, and the names for the arguments of all queries and mutations differ from each other
and from the names of enums and input types. -/
theorem nodup_names_iff_argumentNames {options : Options} {registry : Registry}
    {documents : List Sdl.Document} {generated : List Section}
    (built : (ofDocuments documents).sections options registry = .ok generated) :
    ((generated.flatMap Section.declarations).map Declaration.name).Nodup ↔
      (∀ name ∈ Sdl.enumNames documents.flatten, name ∉ Sdl.inputNames documents.flatten) ∧
      (Sdl.argumentNames documents.flatten).Nodup ∧
      ∀ name, name ∈ Sdl.enumNames documents.flatten ∨ name ∈ Sdl.inputNames documents.flatten →
        (name : Text) ∉ Sdl.argumentNames documents.flatten := by
  rw [nodup_names_iff built, nodup_types_iff]

theorem nodup_names_nodeDocument :
    ∃ generated, (ofDocuments [nodeDocument]).sections {} Registry.default = .ok generated ∧
      ((generated.flatMap Section.declarations).map Declaration.name).Nodup := by
  obtain ⟨generated, built⟩ := exists_sections_nodeDocument
  have names : Sdl.argumentNames [nodeDocument].flatten = ["FindArgs"] := by decide +kernel
  refine ⟨generated, built, (nodup_names_iff_argumentNames built).mpr ⟨?_, ?_, ?_⟩⟩
  · intro name enumeration
    cases enumeration
  · rw [names]
    exact List.pairwise_singleton _ _
  · intro name type
    obtain none | input := type
    · cases none
    · obtain rfl := List.mem_singleton.mp input
      rw [names]
      decide

/-- Where no two types share a name, only the names for arguments matter. -/
theorem nodup_names_iff_of_nodup_types {options : Options} {registry : Registry}
    {documents : List Sdl.Document} {generated : List Section}
    (distinct : (Sdl.enumNames documents.flatten ++ Sdl.inputNames documents.flatten).Nodup)
    (built : (ofDocuments documents).sections options registry = .ok generated) :
    ((generated.flatMap Section.declarations).map Declaration.name).Nodup ↔
      (Sdl.argumentNames documents.flatten).Nodup ∧
      ∀ name, name ∈ Sdl.enumNames documents.flatten ∨ name ∈ Sdl.inputNames documents.flatten →
        (name : Text) ∉ Sdl.argumentNames documents.flatten := by
  rw [nodup_names_iff built, and_iff_right distinct]

def userDocument : Sdl.Document := [
  .object "Query" [{ name := "user", arguments := [{ name := "id", type := .named "ID" false }] }],
  .object "Mutation" [
    { name := "user", arguments := [{ name := "id", type := .named "ID" false }] }]]

theorem not_nodup_names_userDocument :
    (userDocument.filterMap Sdl.Definition.typeName?).Nodup ∧
    (∀ kind, ((Sdl.rootFields kind userDocument).map Sdl.ObjectField.name).Nodup) ∧
    ∃ generated, (ofDocuments [userDocument]).sections {} Registry.default = .ok generated ∧
      ¬((generated.flatMap Section.declarations).map Declaration.name).Nodup := by
  refine ⟨by decide, ?_, _, rfl, by decide +kernel⟩
  intro kind
  cases kind <;> decide

end Schema

end ZodValidators
