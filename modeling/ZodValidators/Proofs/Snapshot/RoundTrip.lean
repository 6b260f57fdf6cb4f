import ZodValidators.Proofs.Snapshot.Closure

/-!
# Snapshots that are written and read

A snapshot document can be written as JSON and is read back from it as it was. Metadata can be
listed in a document, up to what no document says: descriptions and declared scalars. So a snapshot
loses nothing of such metadata: loading what was written gives it back.
-/

set_option autoImplicit false

namespace ZodValidators

namespace Snapshot

/-! ## Writing documents -/

def nullableText : Option Text → Json.Value
  | none => .null
  | some content => .text content

def nullableBoolean : Option Bool → Json.Value
  | none => .null
  | some value => .boolean value

def CandidateEntry.value (entry : CandidateEntry) : Json.Value :=
  .object [
    ("type", .text entry.type),
    ("location", .text entry.location),
    ("isList", .boolean entry.isList)]

def FieldEntry.members (entry : FieldEntry) : List (Text × Json.Value) := [
  ("name", .text entry.name),
  ("inputTypes", .array (entry.inputTypes.map CandidateEntry.value)),
  ("isRequired", .boolean entry.isRequired),
  ("isNullable", .boolean entry.isNullable),
  ("isOptional", nullableBoolean entry.isOptional),
  ("zodValidatorString", nullableText entry.zodValidatorString),
  ("zodCustomErrors", nullableText entry.zodCustomErrors)]

def FieldEntry.value (entry : FieldEntry) : Json.Value := .object entry.members

def InputTypeEntry.members (entry : InputTypeEntry) : List (Text × Json.Value) := [
  ("name", .text entry.name),
  ("fields", .array (entry.fields.map FieldEntry.value))]

def InputTypeEntry.value (entry : InputTypeEntry) : Json.Value := .object entry.members

def OperationEntry.members (entry : OperationEntry) : List (Text × Json.Value) := [
  ("name", .text entry.name),
  ("argName", nullableText entry.argName),
  ("args", .array (entry.args.map FieldEntry.value))]

def OperationEntry.value (entry : OperationEntry) : Json.Value := .object entry.members

def OutputTypeEntry.members (entry : OutputTypeEntry) : List (Text × Json.Value) := [
  ("name", .text entry.name),
  ("fields", .array (entry.fields.map OperationEntry.value))]

def OutputTypeEntry.value (entry : OutputTypeEntry) : Json.Value := .object entry.members

def EnumEntry.members (writeValue : Text → Json.Value) (entry : EnumEntry) :
    List (Text × Json.Value) := [
  ("name", .text entry.name),
  ("values", .array (entry.values.map writeValue))]

/-- An enum whose values are written in the given way. -/
def EnumEntry.value (writeValue : Text → Json.Value) (entry : EnumEntry) : Json.Value :=
  .object (entry.members writeValue)

def namedValue (name : Text) : Json.Value := .object [("name", .text name)]

def group (items : List Json.Value) : Json.Value := .object [("prisma", .array items)]

def Document.schemaMembers (document : Document) : List (Text × Json.Value) := [
  ("enumTypes", group (document.enumTypes.map (EnumEntry.value .text))),
  ("inputObjectTypes", group (document.inputTypes.map InputTypeEntry.value)),
  ("outputObjectTypes", group (document.outputTypes.map OutputTypeEntry.value))]

def Document.dataModelMembers (document : Document) : List (Text × Json.Value) := [
  ("enums", .array (document.modelEnums.map (EnumEntry.value namedValue)))]

def Document.members (document : Document) : List (Text × Json.Value) := [
  ("schema", .object document.schemaMembers),
  ("datamodel", .object document.dataModelMembers)]

def Document.value (document : Document) : Json.Value := .object document.members

/-! ## Reading what was written -/

section Readers

variable {α : Type} {read : Reader α}

theorem readItems_map {write : α → Json.Value} (reads : ∀ item, read (write item) = .valid item)
    (index : Nat) (items : List α) : readItems read index (items.map write) = .valid items := by
  induction items generalizing index with
  | nil => rfl
  | cons item rest ih =>
      rw [List.map_cons, readItems, reads, ih]
      rfl

theorem readList_map {write : α → Json.Value} (reads : ∀ item, read (write item) = .valid item)
    (items : List α) : readList read (.array (items.map write)) = .valid items :=
  readItems_map reads 0 items

theorem required_eq_valid {key : Key} {members : List (Text × Json.Value)} {written : Json.Value}
    {value : α} (found : key.find? members = some written) (reads : read written = .valid value) :
    required key read members = .valid value := by
  rw [required, found]
  dsimp only
  rw [reads]
  rfl

theorem withDefault_eq_valid {key : Key} {members : List (Text × Json.Value)}
    {written : Json.Value} {value : α} (absent : α) (found : key.find? members = some written)
    (reads : read written = .valid value) : withDefault key read absent members = .valid value := by
  rw [withDefault, found]
  dsimp only
  rw [reads]
  rfl

end Readers

theorem readNullable_nullableText (content : Option Text) :
    readNullable readText (nullableText content) = .valid content := by
  cases content <;> rfl

theorem readNullable_nullableBoolean (value : Option Bool) :
    readNullable readBoolean (nullableBoolean value) = .valid value := by
  cases value <;> rfl

theorem readCandidate_value (entry : CandidateEntry) : readCandidate entry.value = .valid entry :=
  rfl

theorem readField_value (entry : FieldEntry) : readField entry.value = .valid entry := by
  have name : required (.plain "name") readText entry.members = .valid entry.name := rfl
  have candidates : required ⟨"inputTypes", "input_types"⟩ (readList readCandidate)
      entry.members = .valid entry.inputTypes :=
    required_eq_valid rfl (readList_map readCandidate_value _)
  have isRequired : withDefault ⟨"isRequired", "is_required"⟩ readBoolean false entry.members =
      .valid entry.isRequired := rfl
  have isNullable : withDefault ⟨"isNullable", "is_nullable"⟩ readBoolean false entry.members =
      .valid entry.isNullable := rfl
  have isOptional : withDefault ⟨"isOptional", "is_optional"⟩ (readNullable readBoolean) none
      entry.members = .valid entry.isOptional :=
    withDefault_eq_valid none rfl (readNullable_nullableBoolean _)
  have validator : withDefault ⟨"zodValidatorString", "zod_validator_string"⟩
      (readNullable readText) none entry.members = .valid entry.zodValidatorString :=
    withDefault_eq_valid none rfl (readNullable_nullableText _)
  have customErrors : withDefault ⟨"zodCustomErrors", "zod_custom_errors"⟩
      (readNullable readText) none entry.members = .valid entry.zodCustomErrors :=
    withDefault_eq_valid none rfl (readNullable_nullableText _)
  rw [FieldEntry.value, readField, readObject, name, candidates, isRequired, isNullable,
    isOptional, validator, customErrors]
  rfl

theorem readInputType_value (entry : InputTypeEntry) :
    readInputType entry.value = .valid entry := by
  have name : required (.plain "name") readText entry.members = .valid entry.name := rfl
  have fields : withDefault (.plain "fields") (readList readField) [] entry.members =
      .valid entry.fields :=
    withDefault_eq_valid [] rfl (readList_map readField_value _)
  rw [InputTypeEntry.value, readInputType, readObject, name, fields]
  rfl

theorem readOperation_value (entry : OperationEntry) :
    readOperation entry.value = .valid entry := by
  have name : required (.plain "name") readText entry.members = .valid entry.name := rfl
  have argName : withDefault ⟨"argName", "arg_name"⟩ (readNullable readText) none entry.members =
      .valid entry.argName :=
    withDefault_eq_valid none rfl (readNullable_nullableText _)
  have arguments : withDefault (.plain "args") (readList readField) [] entry.members =
      .valid entry.args :=
    withDefault_eq_valid [] rfl (readList_map readField_value _)
  rw [OperationEntry.value, readOperation, readObject, name, argName, arguments]
  rfl

theorem readOutputType_value (entry : OutputTypeEntry) :
    readOutputType entry.value = .valid entry := by
  have name : required (.plain "name") readText entry.members = .valid entry.name := rfl
  have fields : withDefault (.plain "fields") (readList readOperation) [] entry.members =
      .valid entry.fields :=
    withDefault_eq_valid [] rfl (readList_map readOperation_value _)
  rw [OutputTypeEntry.value, readOutputType, readObject, name, fields]
  rfl

/-- An enum is read in the same way whether its values are texts or objects. -/
theorem readEnum_value {writeValue : Text → Json.Value}
    (reads : ∀ name, readEnumValue (writeValue name) = .valid name) (entry : EnumEntry) :
    readEnum (entry.value writeValue) = .valid entry := by
  have name : required (.plain "name") readText (entry.members writeValue) = .valid entry.name :=
    rfl
  have values : withDefault (.plain "values") (readList readEnumValue) []
      (entry.members writeValue) = .valid entry.values :=
    withDefault_eq_valid [] rfl (readList_map reads _)
  rw [EnumEntry.value, readEnum, readObject, name, values]
  rfl

theorem readGroup_group {α : Type} {read : Reader α} {write : α → Json.Value} (model : String)
    (reads : ∀ item, read (write item) = .valid item) (items : List α) :
    readGroup model read (group (items.map write)) = .valid items := by
  rw [readGroup, group, readObject]
  exact withDefault_eq_valid [] rfl (readList_map reads items)

theorem readSchema_schemaMembers (document : Document) :
    readSchema (.object document.schemaMembers) =
      .valid (document.enumTypes, document.inputTypes, document.outputTypes) := by
  have enums : withDefault ⟨"enumTypes", "enum_types"⟩ (readGroup "SnapshotEnumTypes" readEnum) []
      document.schemaMembers = .valid document.enumTypes :=
    withDefault_eq_valid [] rfl (readGroup_group _ (readEnum_value fun _ => rfl) _)
  have inputs : withDefault ⟨"inputObjectTypes", "input_object_types"⟩
      (readGroup "SnapshotInputObjectTypes" readInputType) [] document.schemaMembers =
      .valid document.inputTypes :=
    withDefault_eq_valid [] rfl (readGroup_group _ readInputType_value _)
  have outputs : withDefault ⟨"outputObjectTypes", "output_object_types"⟩
      (readGroup "SnapshotOutputObjectTypes" readOutputType) [] document.schemaMembers =
      .valid document.outputTypes :=
    withDefault_eq_valid [] rfl (readGroup_group _ readOutputType_value _)
  rw [readSchema, readObject, enums, inputs, outputs]
  rfl

theorem readDataModel_dataModelMembers (document : Document) :
    readDataModel (.object document.dataModelMembers) = .valid document.modelEnums := by
  rw [readDataModel, readObject]
  exact withDefault_eq_valid [] rfl (readList_map (readEnum_value fun _ => rfl) _)

/-- Every document is read back from what is written of it. -/
theorem readDocument_value (document : Document) :
    readDocument document.value = .valid document := by
  have schema : withDefault ⟨"schema", "schema_"⟩ readSchema ([], [], []) document.members =
      .valid (document.enumTypes, document.inputTypes, document.outputTypes) :=
    withDefault_eq_valid _ rfl (readSchema_schemaMembers document)
  have dataModel : withDefault (.plain "datamodel") readDataModel [] document.members =
      .valid document.modelEnums :=
    withDefault_eq_valid _ rfl (readDataModel_dataModelMembers document)
  rw [Document.value, readDocument, readObject, schema, dataModel]
  rfl

end Snapshot

/-! ## Listing metadata -/

/-- A text that custom text was made from. -/
def Constant.listedText? : Constant → Option Text
  | .text content => some content
  | _ => none

def TypeRef.entry (candidate : TypeRef) : Snapshot.CandidateEntry where
  type := candidate.name
  location := candidate.location
  isList := candidate.isList

def Field.entry (field : Field) : Snapshot.FieldEntry where
  name := field.name
  inputTypes := field.candidates.map TypeRef.entry
  isRequired := field.required
  isNullable := field.nullable
  isOptional := some field.optional
  zodValidatorString := field.validator.listedText?
  zodCustomErrors := field.customErrors.listedText?

def InputType.entry (inputType : InputType) : Snapshot.InputTypeEntry where
  name := inputType.name
  fields := inputType.fields.map Field.entry

def Operation.entry (operation : Operation) : Snapshot.OperationEntry where
  name := operation.name
  argName := some operation.argumentsName
  args := operation.arguments.map Field.entry

def EnumType.entry (enumType : EnumType) : Snapshot.EnumEntry where
  name := enumType.name
  values := enumType.values

/-- The document that lists a schema, with its operations as the fields of the two root types. -/
def Schema.document (schema : Schema) : Snapshot.Document where
  enumTypes := schema.nativeEnums.map EnumType.entry
  inputTypes := schema.inputs.values.map InputType.entry
  outputTypes := [
    { name := "Query", fields := schema.queries.map Operation.entry },
    { name := "Mutation", fields := schema.mutations.map Operation.entry }]
  modelEnums := schema.modelEnums.map EnumType.entry

/-- A document can say everything about the field: custom text is a text or absent, and there is no
description. -/
structure Field.IsListable (field : Field) : Prop where
  validator : ∃ given, field.validator = Snapshot.customText given
  customErrors : ∃ given, field.customErrors = Snapshot.customText given
  description : field.description = none

structure InputType.IsListable (inputType : InputType) : Prop where
  fields : ∀ field ∈ inputType.fields, field.IsListable
  description : inputType.description = none

structure Operation.IsListable (kind : RootKind) (operation : Operation) : Prop where
  kind : operation.kind = kind
  argumentsName : operation.argumentsName ≠ []
  arguments : ∀ field ∈ operation.arguments, field.IsListable
  description : operation.description = none

/-- A document can say everything about the schema. Enums and input types are kept by their own
names, the schema's enums stand before those of the data model, and pascal case does not change the
names of the latter. -/
structure Schema.IsListable (schema : Schema) : Prop where
  scalars : schema.scalars = []
  enumKeys : ∀ entry ∈ schema.enums.entries, entry.1 = entry.2.name
  enumOrder : schema.enums.values = schema.nativeEnums ++ schema.modelEnums
  enumDescriptions : ∀ enumType ∈ schema.enums.values, enumType.description = none
  modelOrigins : ∀ enumType ∈ schema.modelEnums, enumType.origin = "model"
  modelNames : ∀ enumType ∈ schema.modelEnums, Naming.pascalCase enumType.name = enumType.name
  inputKeys : ∀ entry ∈ schema.inputs.entries, entry.1 = entry.2.name
  inputs : ∀ inputType ∈ schema.inputs.values, inputType.IsListable
  queries : ∀ operation ∈ schema.queries, operation.IsListable .query
  mutations : ∀ operation ∈ schema.mutations, operation.IsListable .mutation

/-! ## Metadata of what was listed -/

private theorem map_map_eq_self {α β : Type} {list : α → β} {restore : β → α} {items : List α}
    (same : ∀ item ∈ items, restore (list item) = item) : (items.map list).map restore = items := by
  rw [List.map_map]
  exact (List.map_congr_left same).trans (List.map_id _)

theorem Snapshot.customText_listedText? {value : Constant}
    (listable : ∃ given, value = customText given) : customText value.listedText? = value := by
  obtain ⟨given, rfl⟩ := listable
  cases given <;> rfl

theorem Field.field_entry {field : Field} (listable : field.IsListable) :
    field.entry.field = field := by
  have candidates : (field.candidates.map TypeRef.entry).map
      Snapshot.CandidateEntry.candidate = field.candidates :=
    map_map_eq_self fun _ _ => rfl
  have validator := Snapshot.customText_listedText? listable.validator
  have customErrors := Snapshot.customText_listedText? listable.customErrors
  calc
    field.entry.field = { field with
        candidates := (field.candidates.map TypeRef.entry).map Snapshot.CandidateEntry.candidate
        validator := Snapshot.customText field.validator.listedText?
        customErrors := Snapshot.customText field.customErrors.listedText?
        description := none } := rfl
    _ = field := by rw [candidates, validator, customErrors, ← listable.description]

theorem InputType.inputType_entry {inputType : InputType} (listable : inputType.IsListable) :
    inputType.entry.inputType = inputType := by
  have fields : (inputType.fields.map Field.entry).map Snapshot.FieldEntry.field =
      inputType.fields :=
    map_map_eq_self fun field member => Field.field_entry (listable.fields field member)
  calc
    inputType.entry.inputType = { inputType with
        fields := (inputType.fields.map Field.entry).map Snapshot.FieldEntry.field
        description := none } := rfl
    _ = inputType := by rw [fields, ← listable.description]

theorem Operation.operation_entry {kind : RootKind} {operation : Operation}
    (listable : operation.IsListable kind) : operation.entry.operation kind = operation := by
  have arguments : (operation.arguments.map Field.entry).map Snapshot.FieldEntry.field =
      operation.arguments :=
    map_map_eq_self fun field member => Field.field_entry (listable.arguments field member)
  have argumentsName : argumentsNameFor operation.name operation.argumentsName =
      operation.argumentsName := if_neg listable.argumentsName
  calc
    operation.entry.operation kind = { operation with
        kind
        arguments := (operation.arguments.map Field.entry).map Snapshot.FieldEntry.field
        argumentsName := argumentsNameFor operation.name operation.argumentsName
        description := none } := rfl
    _ = operation := by rw [arguments, argumentsName, ← listable.kind, ← listable.description]

theorem EnumType.nativeEnum_entry {enumType : EnumType} (native : enumType.isNative = true)
    (description : enumType.description = none) : enumType.entry.nativeEnum = enumType := by
  have origin : enumType.origin = "schema" := of_decide_eq_true native
  calc
    enumType.entry.nativeEnum = { enumType with origin := "schema", description := none } := rfl
    _ = enumType := by rw [← origin, ← description]

theorem EnumType.modelEnum_entry {enumType : EnumType} (origin : enumType.origin = "model")
    (name : Naming.pascalCase enumType.name = enumType.name)
    (description : enumType.description = none) : enumType.entry.modelEnum = enumType := by
  calc
    enumType.entry.modelEnum = { enumType with
        name := Naming.pascalCase enumType.name
        origin := "model"
        description := none } := rfl
    _ = enumType := by rw [name, ← origin, ← description]

namespace Schema

variable {schema : Schema}

theorem IsListable.enums_document (listable : schema.IsListable) :
    schema.document.schema.enums = schema.enums := by
  have described : ∀ enumType ∈ schema.nativeEnums ++ schema.modelEnums,
      enumType.description = none := listable.enumOrder ▸ listable.enumDescriptions
  have natives : schema.document.enumTypes.map Snapshot.EnumEntry.nativeEnum =
      schema.nativeEnums := by
    apply map_map_eq_self
    intro enumType member
    exact enumType.nativeEnum_entry (List.mem_filter.mp member).2
      (described _ (List.mem_append_left _ member))
  have models : schema.document.modelEnums.map Snapshot.EnumEntry.modelEnum =
      schema.modelEnums := by
    apply map_map_eq_self
    intro enumType member
    exact enumType.modelEnum_entry (listable.modelOrigins _ member) (listable.modelNames _ member)
      (described _ (List.mem_append_right _ member))
  rw [Snapshot.Document.enums_schema, natives, models, ← listable.enumOrder]
  exact Table.ofList_values listable.enumKeys

theorem IsListable.inputs_document (listable : schema.IsListable) :
    schema.document.schema.inputs = schema.inputs := by
  have inputs : schema.document.inputTypes.map Snapshot.InputTypeEntry.inputType =
      schema.inputs.values :=
    map_map_eq_self fun inputType member => InputType.inputType_entry (listable.inputs _ member)
  rw [Snapshot.Document.inputs_schema, inputs]
  exact Table.ofList_values listable.inputKeys

theorem IsListable.operations_document (listable : schema.IsListable) :
    schema.document.outputTypes.flatMap Snapshot.OutputTypeEntry.operations =
      schema.queries ++ schema.mutations := by
  have queries : (schema.queries.map Operation.entry).map
      (Snapshot.OperationEntry.operation .query) = schema.queries :=
    map_map_eq_self fun operation member =>
      Operation.operation_entry (listable.queries operation member)
  have mutations : (schema.mutations.map Operation.entry).map
      (Snapshot.OperationEntry.operation .mutation) = schema.mutations :=
    map_map_eq_self fun operation member =>
      Operation.operation_entry (listable.mutations operation member)
  calc
    schema.document.outputTypes.flatMap Snapshot.OutputTypeEntry.operations =
        (schema.queries.map Operation.entry).map (Snapshot.OperationEntry.operation .query) ++
          (schema.mutations.map Operation.entry).map
            (Snapshot.OperationEntry.operation .mutation) := by
      rw [document, List.flatMap_cons, List.flatMap_cons, List.flatMap_nil, List.append_nil]
      rfl
    _ = schema.queries ++ schema.mutations := by rw [queries, mutations]

theorem IsListable.schema_document (listable : schema.IsListable) :
    schema.document.schema = schema := by
  have queries : (schema.queries ++ schema.mutations).filter
      (fun operation => operation.kind = .query) = schema.queries := by
    rw [List.filter_append, List.filter_eq_self.mpr, List.filter_eq_nil_iff.mpr, List.append_nil]
    · intro operation member
      simp [(listable.mutations operation member).kind]
    · intro operation member
      simp [(listable.queries operation member).kind]
  have mutations : (schema.queries ++ schema.mutations).filter
      (fun operation => operation.kind = .mutation) = schema.mutations := by
    rw [List.filter_append, List.filter_eq_nil_iff.mpr, List.filter_eq_self.mpr, List.nil_append]
    · intro operation member
      simp [(listable.mutations operation member).kind]
    · intro operation member
      simp [(listable.queries operation member).kind]
  calc
    schema.document.schema = {
        scalars := []
        enums := schema.document.schema.enums
        inputs := schema.document.schema.inputs
        queries := (schema.queries ++ schema.mutations).filter fun operation =>
          operation.kind = .query
        mutations := (schema.queries ++ schema.mutations).filter fun operation =>
          operation.kind = .mutation } := by
      rw [Snapshot.Document.schema, foldl_addOperation_eq, listable.operations_document]
      rfl
    _ = schema := by
      rw [listable.enums_document, listable.inputs_document, queries, mutations,
        ← listable.scalars]

end Schema

/-- A schema that a document can say everything about is loaded again from the document that lists
it. -/
theorem Snapshot.loadValue_document {schema : Schema} (listable : schema.IsListable) :
    loadValue schema.document.value = .ok schema := by
  rw [loadValue, readDocument_value]
  exact congrArg Except.ok listable.schema_document

def titleField : Field where
  name := "title"
  candidates := [
    { name := "String" },
    { name := "TitleFilter", location := Location.inputObject, isList := true },
    { name := "Null" }]
  required := true
  nullable := true
  optional := true
  validator := .text ".min(1)"

def titleSchema : Schema where
  enums := Table.ofList [
    ("SortOrder", { name := "SortOrder", values := ["asc", "desc"], origin := "schema" }),
    ("Role", { name := "Role", values := ["ADMIN"] })]
  inputs := Table.ofList [("TitleFilter", { name := "TitleFilter", fields := [titleField] })]
  mutations := [
    { name := "rename", kind := .mutation, argumentsName := "Renaming", arguments := [titleField] }]

theorem Snapshot.loadValue_titleSchema :
    titleSchema.IsListable ∧ loadValue titleSchema.document.value = .ok titleSchema := by
  have field : titleField.IsListable := ⟨⟨some ".min(1)", rfl⟩, ⟨none, rfl⟩, rfl⟩
  have fields : ∀ listed ∈ [titleField], listed.IsListable := by
    intro listed member
    exact List.mem_singleton.mp member ▸ field
  have listable : titleSchema.IsListable := {
    scalars := rfl
    enumKeys := by decide +kernel
    enumOrder := by decide +kernel
    enumDescriptions := by decide +kernel
    modelOrigins := by decide +kernel
    modelNames := by decide +kernel
    inputKeys := by
      intro entry member
      obtain rfl := List.mem_singleton.mp member
      rfl
    inputs := by
      intro inputType member
      obtain rfl := List.mem_singleton.mp member
      exact ⟨fields, rfl⟩
    queries := fun _ member => nomatch member
    mutations := by
      intro operation member
      obtain rfl := List.mem_singleton.mp member
      exact ⟨rfl, List.cons_ne_nil _ _, fields, rfl⟩ }
  exact ⟨listable, loadValue_document listable⟩

end ZodValidators
