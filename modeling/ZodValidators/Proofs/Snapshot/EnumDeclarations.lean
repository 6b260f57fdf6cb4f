import ZodValidators.Proofs.Snapshot.Closure

/-!
# Enums of snapshots

A snapshot lists the schema's own enums and those of the data model, and both are kept by the names
that they are declared under, which for the data model are in pascal case. So a name is declared once
however often it is listed, and an enum of the data model takes it from one of the schema. Every
listed enum has a declaration of its own exactly when no two of these names are equal.
-/

set_option autoImplicit false

namespace ZodValidators.Snapshot

/-! ## What a snapshot lists -/

def enumExport (namespaceName name : Text) : Declaration where
  name
  body := "z.nativeEnum(" ++ namespaceName ++ "." ++ name ++ ")"
  kind := "enum"

namespace Document

/-- The names that the enums of the data model are declared under. -/
def modelExportNames (document : Document) : List Text :=
  document.modelEnumNames.map Naming.pascalCase

/-- The names that the listed enums are declared under, in the order in which they are listed. -/
def enumExportNames (document : Document) : List Text :=
  document.schemaEnumNames ++ document.modelExportNames

/-- One declaration for each listed enum, the schema's first. -/
def enumExports (options : Options) (document : Document) : List Declaration :=
  document.schemaEnumNames.map (enumExport options.schemaNamespace) ++
    document.modelExportNames.map (enumExport options.modelNamespace)

/-! ## What is kept -/

/-- Enums under the names that they are declared under. -/
def namedEnums (enumTypes : List EnumType) : List (Text × EnumType) :=
  enumTypes.map fun enumType => (enumType.name, enumType)

theorem map_fst_namedEnums (enumTypes : List EnumType) :
    (namedEnums enumTypes).map Prod.fst = enumTypes.map EnumType.name := by
  rw [namedEnums, List.map_map]
  rfl

theorem of_mem_namedEnums {enumTypes : List EnumType} {name : Text} {enumType : EnumType}
    (member : (name, enumType) ∈ namedEnums enumTypes) :
    enumType ∈ enumTypes ∧ enumType.name = name := by
  obtain ⟨listed, inside, same⟩ := List.mem_map.mp member
  obtain ⟨rfl, rfl⟩ := Prod.mk.inj same
  exact ⟨inside, rfl⟩

theorem map_name_nativeEnums (document : Document) :
    (document.enumTypes.map EnumEntry.nativeEnum).map EnumType.name =
      document.schemaEnumNames := by
  rw [List.map_map]
  rfl

theorem map_name_modelEnums (document : Document) :
    (document.modelEnums.map EnumEntry.modelEnum).map EnumType.name =
      document.modelExportNames := by
  rw [modelExportNames, modelEnumNames, List.map_map, List.map_map]
  rfl

theorem enums_schema_eq_insertAll (document : Document) :
    document.schema.enums =
      (Table.ofList (namedEnums (document.enumTypes.map EnumEntry.nativeEnum))).insertAll
        (namedEnums (document.modelEnums.map EnumEntry.modelEnum)) := by
  rw [enums_schema, List.map_append, Table.ofList, Table.insertAll, List.foldl_append]
  rfl

theorem keys_enums_schema (document : Document) :
    document.schema.enums.keys = document.enumExportNames.eraseDups := by
  have native : (Table.ofList
      (namedEnums (document.enumTypes.map EnumEntry.nativeEnum))).keys =
        document.schemaEnumNames.eraseDups := by
    rw [Table.keys_ofList, map_fst_namedEnums, map_name_nativeEnums]
  rw [enums_schema_eq_insertAll, Table.keys_insertAll native, map_fst_namedEnums,
    map_name_modelEnums, enumExportNames]

/-- A name belongs to an enum of the data model if any enum of the data model is declared under it,
and otherwise to one of the schema. -/
theorem of_mem_enums_schema {document : Document} {name : Text} {enumType : EnumType}
    (member : (name, enumType) ∈ document.schema.enums.entries) :
    enumType.name = name ∧ enumType.isNative = decide (name ∉ document.modelExportNames) := by
  have found := Table.mem_entries_iff.mp member
  rw [enums_schema_eq_insertAll] at found
  by_cases model : name ∈ document.modelExportNames
  · have listed : name ∈ (namedEnums (document.modelEnums.map EnumEntry.modelEnum)).map
        Prod.fst := by
      rwa [map_fst_namedEnums, map_name_modelEnums]
    obtain ⟨last, inserted, lastFound⟩ := Table.exists_find?_insertAll listed
    obtain rfl := Option.some.inj (lastFound.symm.trans found)
    obtain ⟨inModel, named⟩ := of_mem_namedEnums inserted
    obtain ⟨entry, _, rfl⟩ := List.mem_map.mp inModel
    exact ⟨named, (decide_eq_false (not_not_intro model)).symm⟩
  · have unlisted : name ∉ (namedEnums (document.modelEnums.map EnumEntry.modelEnum)).map
        Prod.fst := by
      rwa [map_fst_namedEnums, map_name_modelEnums]
    rw [Table.find?_insertAll_of_not_mem unlisted] at found
    rcases Table.mem_of_mem_insertAll (Table.mem_entries_iff.mpr found) with none | inserted
    · cases none
    · obtain ⟨native, named⟩ := of_mem_namedEnums inserted
      obtain ⟨entry, _, rfl⟩ := List.mem_map.mp native
      exact ⟨named, (decide_eq_true model).symm⟩

/-- What is declared for the enums of a document: first the names that belong to the schema and then
those that belong to the data model. -/
theorem enumDeclarations_schema (options : Options) (document : Document) :
    document.schema.enumDeclarations options =
      (document.enumExportNames.eraseDups.filter (· ∉ document.modelExportNames)).map
          (enumExport options.schemaNamespace) ++
        (document.enumExportNames.eraseDups.filter (· ∈ document.modelExportNames)).map
          (enumExport options.modelNamespace) := by
  have native : ∀ entry ∈ document.schema.enums.entries,
      entry.2.isNative = decide (entry.1 ∉ document.modelExportNames) :=
    fun _ member => (of_mem_enums_schema member).2
  have model : ∀ entry ∈ document.schema.enums.entries,
      (!entry.2.isNative) = decide (entry.1 ∈ document.modelExportNames) := by
    intro entry member
    rw [native entry member, decide_not, Bool.not_not]
  have exported : ∀ entry ∈ document.schema.enums.entries,
      entry.2.declaration options = enumExport
        (if entry.1 ∈ document.modelExportNames then options.modelNamespace
          else options.schemaNamespace) entry.1 := by
    intro entry member
    rw [EnumType.declaration, native entry member, (of_mem_enums_schema member).1]
    by_cases listed : entry.1 ∈ document.modelExportNames <;>
      simp [listed, enumExport, DeclarationKind.label]
  rw [← keys_enums_schema, Schema.enumDeclarations, Schema.nativeEnums, Schema.modelEnums,
    Table.values, Table.keys, List.map_append]
  simp only [List.filter_map, List.map_map, Function.comp_def]
  rw [List.filter_congr native, List.filter_congr model]
  congr 1
  · apply List.map_congr_left
    intro entry member
    obtain ⟨listed, apart⟩ := List.mem_filter.mp member
    rw [exported entry listed, if_neg (of_decide_eq_true apart)]
  · apply List.map_congr_left
    intro entry member
    obtain ⟨listed, inside⟩ := List.mem_filter.mp member
    rw [exported entry listed, if_pos (of_decide_eq_true inside)]

/-! ## Distinct names -/

theorem map_name_enumExports (options : Options) (document : Document) :
    (document.enumExports options).map Declaration.name = document.enumExportNames := by
  rw [enumExports, List.map_append, List.map_map, List.map_map, enumExportNames]
  congr 1
  · exact List.map_id _
  · exact List.map_id _

theorem nodup_names_enumDeclarations (options : Options) (document : Document) :
    ((document.schema.enumDeclarations options).map Declaration.name).Nodup := by
  have names : document.schema.enums.values.map EnumType.name = document.schema.enums.keys := by
    rw [Table.values, Table.keys, List.map_map]
    exact List.map_congr_left fun _ member => (of_mem_enums_schema member).1
  have order : (document.schema.nativeEnums ++ document.schema.modelEnums).Perm
      document.schema.enums.values :=
    List.filter_append_perm EnumType.isNative document.schema.enums.values
  have named : Declaration.name ∘ EnumType.declaration options = EnumType.name := rfl
  rw [Schema.enumDeclarations, List.map_map, named, (order.map EnumType.name).nodup_iff, names]
  exact Table.nodup_keys _

theorem enumDeclarations_eq_enumExports_iff (options : Options) (document : Document) :
    document.schema.enumDeclarations options = document.enumExports options ↔
      document.enumExportNames.Nodup := by
  constructor
  · intro same
    rw [← map_name_enumExports options, ← same]
    exact nodup_names_enumDeclarations options document
  · intro distinct
    have apart := (List.nodup_append.mp distinct).2.2
    have schemaNames : document.enumExportNames.filter (· ∉ document.modelExportNames) =
        document.schemaEnumNames := by
      rw [enumExportNames, List.filter_append, List.filter_eq_self.mpr, List.filter_eq_nil_iff.mpr,
        List.append_nil]
      · simp
      · intro name own
        exact decide_eq_true fun model => apart name own name model rfl
    have modelNames : document.enumExportNames.filter (· ∈ document.modelExportNames) =
        document.modelExportNames := by
      rw [enumExportNames, List.filter_append, List.filter_eq_nil_iff.mpr, List.filter_eq_self.mpr,
        List.nil_append]
      · simp
      · intro name own model
        exact apart name own name (of_decide_eq_true model) rfl
    rw [enumDeclarations_schema, Table.eraseDups_eq_self distinct, schemaNames, modelNames,
      enumExports]

end Document

/-! ## Loaded snapshots -/

/-- What is declared for the enums of a snapshot. Every name is declared once, as an enum of the data
model if there is one of this name and of the schema otherwise. This is one declaration for each
listed enum, all of the schema's and then all of the data model's in the order in which they are
listed, exactly when all their names are distinct. -/
theorem enumDeclarations_loadValue (options : Options) {value : Json.Value}
    {document : Document} (read : readDocument value = .valid document) :
    ∃ schema, loadValue value = .ok schema ∧
      schema.enumDeclarations options =
        (document.enumExportNames.eraseDups.filter (· ∉ document.modelExportNames)).map
            (enumExport options.schemaNamespace) ++
          (document.enumExportNames.eraseDups.filter (· ∈ document.modelExportNames)).map
            (enumExport options.modelNamespace) ∧
      ((schema.enumDeclarations options).map Declaration.name).Nodup ∧
      (schema.enumDeclarations options = document.enumExports options ↔
        document.enumExportNames.Nodup) := by
  refine ⟨document.schema, ?_, document.enumDeclarations_schema options,
    document.nodup_names_enumDeclarations options,
    document.enumDeclarations_eq_enumExports_iff options⟩
  rw [loadValue, read]

def rolesDocument (schemaName modelName : Text) : Document where
  enumTypes := [{ name := schemaName, values := ["asc", "desc"] }]
  inputTypes := []
  outputTypes := []
  modelEnums := [{ name := modelName, values := ["ADMIN"] }]

def rolesValue (schemaName modelName : Text) : Json.Value :=
  .object [
    ("schema", .object [
      ("enumTypes", .object [
        ("prisma", .array [.object [
          ("name", .text schemaName), ("values", .array [.text "asc", .text "desc"])]])])]),
    ("datamodel", .object [
      ("enums", .array [.object [
        ("name", .text modelName), ("values", .array [.object [("name", .text "ADMIN")]])]])])]

theorem readDocument_rolesValue (schemaName modelName : Text) :
    readDocument (rolesValue schemaName modelName) =
      .valid (rolesDocument schemaName modelName) := rfl

theorem enumDeclarations_sortOrder :
    ∃ schema, loadValue (rolesValue "SortOrder" "user_role") = .ok schema ∧
      schema.enumDeclarations {} = [
        { name := "SortOrder", body := "z.nativeEnum(Prisma.Prisma.SortOrder)", kind := "enum" },
        { name := "UserRole", body := "z.nativeEnum(Prisma.UserRole)", kind := "enum" }] := by
  obtain ⟨schema, loaded, _, _, listed⟩ := enumDeclarations_loadValue {}
    (readDocument_rolesValue "SortOrder" "user_role")
  have distinct : (rolesDocument "SortOrder" "user_role").enumExportNames.Nodup := by
    decide +kernel
  refine ⟨schema, loaded, (listed.mpr distinct).trans ?_⟩
  decide +kernel

/-- An enum of the data model that takes the name of one of the schema. -/
theorem enumDeclarations_role :
    readDocument (rolesValue "Role" "role") = .valid (rolesDocument "Role" "role") ∧
    (rolesDocument "Role" "role").schemaEnumNames.Nodup ∧
    (rolesDocument "Role" "role").modelEnumNames.Nodup ∧
    ∃ schema, loadValue (rolesValue "Role" "role") = .ok schema ∧
      schema.enumDeclarations {} =
        [{ name := "Role", body := "z.nativeEnum(Prisma.Role)", kind := "enum" }] ∧
      schema.enumDeclarations {} ≠ (rolesDocument "Role" "role").enumExports {} := by
  refine ⟨rfl, by decide, by decide, _, rfl, ?_, ?_⟩
  · decide +kernel
  · decide +kernel

end ZodValidators.Snapshot
