import ZodValidators.Proofs.Sdl.Documents
import ZodValidators.Gather
import ZodValidators.TypeKind

/-!
# Loaded documents

Once all definitions are known, every type gets the place where it is defined. The loaded metadata
is that of the list of all definitions, with these places.
-/

set_option autoImplicit false

namespace ZodValidators

/-! ## Places of types -/

namespace Sdl

theorem mem_enumNames {name : String} {definitions : List Definition} :
    name ∈ enumNames definitions ↔
      ∃ values description, .enumeration name values description ∈ definitions := by
  rw [enumNames, List.mem_eraseDups, List.mem_filterMap]
  constructor
  · rintro ⟨definition, member, named⟩
    cases definition with
    | enumeration other values description =>
        cases named
        exact ⟨values, description, member⟩
    | scalar | object | input | other => cases named
  · rintro ⟨values, description, member⟩
    exact ⟨_, member, rfl⟩

theorem mem_inputNames {name : String} {definitions : List Definition} :
    name ∈ inputNames definitions ↔
      ∃ fields description, .input name fields description ∈ definitions := by
  rw [inputNames, List.mem_eraseDups, List.mem_filterMap]
  constructor
  · rintro ⟨definition, member, named⟩
    cases definition with
    | input other fields description =>
        cases named
        exact ⟨fields, description, member⟩
    | scalar | object | enumeration | other => cases named
  · rintro ⟨fields, description, member⟩
    exact ⟨_, member, rfl⟩

theorem inputParts_ne_nil {name : String} {definitions : List Definition}
    (member : name ∈ inputNames definitions) : inputParts name definitions ≠ [] := by
  obtain ⟨fields, description, defined⟩ := mem_inputNames.mp member
  exact List.ne_nil_of_mem (List.mem_filterMap.mpr ⟨_, defined, if_pos rfl⟩)

/-- Where the type of a name is defined. What is no enum and no input type counts as a scalar. -/
def placeOf (definitions : List Definition) (name : String) : Location :=
  if name ∈ enumNames definitions then Location.enumeration
  else if name ∈ inputNames definitions then Location.inputObject
  else Location.scalar

theorem isReferencePlace_placeOf {definitions : List Definition} {name : String} :
    TypeKind.isReferencePlace (placeOf definitions name) = true ↔
      name ∈ enumNames definitions ∨ name ∈ inputNames definitions := by
  by_cases enumeration : name ∈ enumNames definitions
  · simp [placeOf, enumeration, TypeKind.isReferencePlace]
  · by_cases input : name ∈ inputNames definitions
    · simp [placeOf, enumeration, input, TypeKind.isReferencePlace]
    · have scalar : placeOf definitions name = Location.scalar := by
        rw [placeOf, if_neg enumeration, if_neg input]
      rw [scalar, iff_false_right (by simp [enumeration, input])]
      decide

/-- The field that is defined among other definitions. -/
def InputValue.locatedField (definitions : List Definition) (value : InputValue) : Field :=
  { value.field with
    candidates := [{
      name := value.type.innermost
      location := placeOf definitions value.type.innermost
      isList := value.type.isList }] }

end Sdl

namespace Schema

/-- The metadata of documents as it is loaded from them. -/
def ofDocuments (documents : List Sdl.Document) : Schema :=
  (documents.foldl addDocument {}).locateAll

/-- Only the definitions matter, and not the documents that they stand in. -/
theorem ofDocuments_eq_locateAll (documents : List Sdl.Document) :
    ofDocuments documents = (collect documents.flatten).locateAll := by
  rw [ofDocuments, collect, addDocument, List.foldl_flatten]
  rfl

theorem locate_collect (definitions : List Sdl.Definition) (name : String) (isList : Bool) :
    (collect definitions).locate { name, isList } =
      { name, location := Sdl.placeOf definitions name, isList } := by
  have enums : (collect definitions).enums.has name = true ↔ name ∈ Sdl.enumNames definitions := by
    rw [Table.has_eq_true_iff, keys_enums_collect, Text.mem_map_ofString]
  have inputs : (collect definitions).inputs.has name = true ↔
      name ∈ Sdl.inputNames definitions := by
    rw [Table.has_eq_true_iff, keys_inputs_collect, Text.mem_map_ofString]
  simp only [locate, Sdl.placeOf, enums, inputs]
  split
  · rfl
  · split <;> rfl

theorem locate_field (definitions : List Sdl.Definition) (value : Sdl.InputValue) :
    { value.field with
      candidates := value.field.candidates.map (collect definitions).locate } =
        value.locatedField definitions := by
  simp [Sdl.InputValue.locatedField, Sdl.InputValue.field, locate_collect]

theorem operationsOf_ofDocuments (kind : RootKind) (documents : List Sdl.Document) :
    (ofDocuments documents).operationsOf kind =
      (Sdl.rootFields kind documents.flatten).map fun field =>
        { field.operation kind with
          arguments := field.arguments.map (·.locatedField documents.flatten) } := by
  have collected := operationsOf_collect kind documents.flatten
  have located : (ofDocuments documents).operationsOf kind =
      ((collect documents.flatten).operationsOf kind).map fun operation =>
        { operation with arguments := operation.arguments.map fun field =>
          { field with
            candidates := field.candidates.map (collect documents.flatten).locate } } := by
    rw [ofDocuments_eq_locateAll]
    cases kind <;> rfl
  rw [located, collected, List.map_map]
  apply List.map_congr_left
  intro field _
  simp [Sdl.ObjectField.operation, Function.comp_def, locate_field]

theorem operations_ofDocuments (documents : List Sdl.Document) :
    (ofDocuments documents).operations.map
        (fun operation => (operation.argumentsName, operation.arguments)) =
      (Sdl.rootFields .query documents.flatten ++ Sdl.rootFields .mutation documents.flatten).map
        fun field => (Operation.argumentsNameFor field.name [],
          field.arguments.map (·.locatedField documents.flatten)) := by
  have queries := operationsOf_ofDocuments .query documents
  have mutations := operationsOf_ofDocuments .mutation documents
  simp only [operationsOf] at queries mutations
  rw [operations, queries, mutations, List.map_append, List.map_append, List.map_map, List.map_map]
  rfl

theorem keys_inputs_ofDocuments (documents : List Sdl.Document) :
    (ofDocuments documents).inputs.keys =
      (Sdl.inputNames documents.flatten).map Text.ofString := by
  rw [ofDocuments_eq_locateAll, locateAll, mapFields, Table.keys_mapValues, keys_inputs_collect]

theorem find?_inputs_ofDocuments (documents : List Sdl.Document) (name : String) :
    (ofDocuments documents).inputs.find? name =
      (Sdl.inputParts name documents.flatten).head?.map fun first => {
        name
        fields := (Sdl.inputFields name documents.flatten).map (·.locatedField documents.flatten)
        description := first.2.map Text.ofString } := by
  rw [ofDocuments_eq_locateAll, locateAll, mapFields, Table.find?_mapValues, find?_inputs_collect,
    mergedInput, Option.map_map]
  congr 1
  funext first
  simp [Sdl.inputFields, Function.comp_def, locate_field]

/-- Each input type stands at its first name with the fields that it keeps. -/
theorem inputs_ofDocuments (documents : List Sdl.Document) :
    (ofDocuments documents).inputs.values =
      (Sdl.inputNames documents.flatten).map fun name => {
        name
        fields := (Sdl.inputFields name documents.flatten).map
          (·.locatedField documents.flatten)
        description :=
          ((Sdl.inputParts name documents.flatten).head?.bind Prod.snd).map Text.ofString } := by
  rw [← List.map_id (ofDocuments documents).inputs.values]
  apply Table.map_values (keys_inputs_ofDocuments documents)
  intro name member
  rw [find?_inputs_ofDocuments]
  cases parts : Sdl.inputParts name documents.flatten with
  | nil => exact absurd parts (Sdl.inputParts_ne_nil member)
  | cons first rest => simp

theorem map_name_enums_ofDocuments (documents : List Sdl.Document) :
    (ofDocuments documents).enums.values.map EnumType.name =
      (Sdl.enumNames documents.flatten).map Text.ofString := by
  have unchanged : (ofDocuments documents).enums = (collect documents.flatten).enums := by
    rw [ofDocuments_eq_locateAll]
    rfl
  rw [unchanged]
  apply Table.map_values (keys_enums_collect _)
  intro name member
  obtain ⟨values, description, defined⟩ := Sdl.mem_enumNames.mp member
  have filled : documents.flatten.filterMap (Sdl.Definition.enumType? name) ≠ [] :=
    List.ne_nil_of_mem (List.mem_filterMap.mpr ⟨_, defined, if_pos rfl⟩)
  obtain ⟨definition, _, given⟩ := List.mem_filterMap.mp (List.getLast_mem filled)
  rw [find?_enums_collect, List.getLast?_eq_some_getLast filled, Option.map_some,
    Sdl.Definition.name_of_enumType? given]

end Schema

/-! ## Files -/

namespace Sdl

def readDocument (file : String × List UInt8) : Except LoadFailure Document :=
  match Text.Utf8.decode file.2 with
  | .error fault => .error (.encoding fault)
  | .ok characters =>
    match parse (Text.unifyLineEnds characters) with
    | .error fault => .error (.syntaxFault file.1 fault)
    | .ok document => .ok document

/-- Files are added as their documents, of which all must be read. -/
theorem addFiles_eq (schema : Schema) (files : List (String × List UInt8)) :
    addFiles schema files =
      (gather readDocument files).map fun documents =>
        documents.foldl Schema.addDocument schema := by
  induction files generalizing schema with
  | nil => rfl
  | cons file rest ih =>
      obtain ⟨name, bytes⟩ := file
      cases decoded : Text.Utf8.decode bytes with
      | error fault => simp [addFiles, gather, readDocument, decoded, Except.map]
      | ok characters =>
          cases parsed : parse (Text.unifyLineEnds characters) with
          | error fault =>
              simp [addFiles, addText, gather, readDocument, decoded, parsed, Except.map]
          | ok document =>
              simp only [addFiles, addText, gather, readDocument, decoded, parsed, Except.map, ih]
              cases gather readDocument rest <;> rfl

/-- What is loaded is the metadata of the documents in all files that the path means. -/
theorem load_eq_ok_iff {tree : FileTree} {path : String} {schema : Schema} :
    load tree path = .ok schema ↔
      tree.placeOf path ≠ .error .nullCharacter ∧
        ∃ documents, gather readDocument (schemaFiles tree path) = .ok documents ∧
          schema = Schema.ofDocuments documents := by
  have loaded : (addFiles {} (schemaFiles tree path)).map Schema.locateAll =
      (gather readDocument (schemaFiles tree path)).map Schema.ofDocuments := by
    rw [addFiles_eq]
    cases gather readDocument (schemaFiles tree path) <;> rfl
  rw [load]
  split
  · next barred => simp [barred]
  · next allowed =>
    rw [loaded]
    cases gathered : gather readDocument (schemaFiles tree path) with
    | error failure => simp [Except.map]
    | ok documents => simpa [Except.map, eq_comm] using fun _ => allowed

end Sdl

end ZodValidators
