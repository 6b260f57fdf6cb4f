import ZodValidators.Proofs.Traversal
import ZodValidators.Snapshot.Loading

/-!
# References in the modules of snapshots

A snapshot says by itself what each candidate refers to, and its references reach the module as they
are. Declarations come from elsewhere: an enum of the data model is declared under its pascal case
name only. So a module is closed up to the enums of the data model whose names are spelled otherwise.
-/

set_option autoImplicit false

namespace ZodValidators

/-! ## References -/

def Rendering.reference? : Rendering → Option Text
  | .construction _ => none
  | .lazyReference name | .directReference name => some name

def Subject.references (registry : Registry) (subject : Subject) : List Text :=
  subject.fields.flatMap fun field =>
    field.nonNullCandidates.filterMap fun candidate =>
      (candidate.rendering registry subject.isDeferred).reference?

theorem TypeRef.reference?_rendering (registry : Registry) (deferred : Bool)
    (candidate : TypeRef) :
    (candidate.rendering registry deferred).reference? =
      if TypeKind.isReferencePlace candidate.location then some candidate.name else none := by
  by_cases place : TypeKind.isReferencePlace candidate.location = true
  · cases deferred <;> simp [rendering_of_isReferencePlace place, place, Rendering.reference?]
  · simp [rendering_of_not_isReferencePlace place, place, Rendering.reference?]

theorem Subject.mem_references {registry : Registry} {subject : Subject} {name : Text}
    (member : name ∈ subject.references registry) :
    ∃ field ∈ subject.fields, ∃ candidate ∈ field.candidates,
      TypeKind.isReferencePlace candidate.location = true ∧ candidate.name = name := by
  obtain ⟨field, present, found⟩ := List.mem_flatMap.mp member
  obtain ⟨candidate, listed, refers⟩ := List.mem_filterMap.mp found
  rw [TypeRef.reference?_rendering] at refers
  refine ⟨field, present, candidate, (List.mem_filter.mp listed).1, ?_⟩
  by_cases place : TypeKind.isReferencePlace candidate.location = true
  · rw [if_pos place] at refers
    exact ⟨place, Option.some.inj refers⟩
  · rw [if_neg place] at refers
    cases refers

/-! ## Entries of a document -/

namespace Snapshot

theorem OutputTypeEntry.exists_operation {entry : OutputTypeEntry} {operation : Operation}
    (member : operation ∈ entry.operations) :
    ∃ kind, ∃ listing ∈ entry.fields, listing.operation kind = operation := by
  rw [operations] at member
  split at member
  · exact ⟨.query, List.mem_map.mp member⟩
  · split at member
    · exact ⟨.mutation, List.mem_map.mp member⟩
    · cases member

namespace Document

def fieldEntries (document : Document) : List FieldEntry :=
  document.inputTypes.flatMap InputTypeEntry.fields ++
    document.outputTypes.flatMap fun type => type.fields.flatMap OperationEntry.args

def schemaEnumNames (document : Document) : List Text := document.enumTypes.map EnumEntry.name

def modelEnumNames (document : Document) : List Text := document.modelEnums.map EnumEntry.name

def inputTypeNames (document : Document) : List Text :=
  document.inputTypes.map InputTypeEntry.name

/-- Every candidate in the place of an enum or of an input type names one that the document lists. -/
structure IsConsistent (document : Document) : Prop where
  enumeration : ∀ field ∈ document.fieldEntries, ∀ candidate ∈ field.inputTypes,
    candidate.location = Location.enumeration →
      candidate.type ∈ document.schemaEnumNames ∨ candidate.type ∈ document.modelEnumNames
  input : ∀ field ∈ document.fieldEntries, ∀ candidate ∈ field.inputTypes,
    candidate.location = Location.inputObject → candidate.type ∈ document.inputTypeNames

/-- The names that declarations of enums and input types get. -/
def declaredNames (document : Document) : List Text :=
  document.schemaEnumNames ++ document.modelEnumNames.map Naming.pascalCase ++
    document.inputTypeNames

theorem enums_schema (document : Document) :
    document.schema.enums =
      Table.ofList ((document.enumTypes.map EnumEntry.nativeEnum ++
        document.modelEnums.map EnumEntry.modelEnum).map fun enumType =>
          (enumType.name, enumType)) := by
  rw [schema, Schema.foldl_addOperation_eq]

theorem inputs_schema (document : Document) :
    document.schema.inputs =
      Table.ofList ((document.inputTypes.map InputTypeEntry.inputType).map fun inputType =>
        (inputType.name, inputType)) := by
  rw [schema, Schema.foldl_addOperation_eq]

theorem mem_operations_schema {document : Document} {operation : Operation}
    (member : operation ∈ document.schema.operations) :
    operation ∈ document.outputTypes.flatMap OutputTypeEntry.operations := by
  rw [schema, Schema.foldl_addOperation_eq, Schema.operations, List.nil_append, List.nil_append,
    List.mem_append, List.mem_filter, List.mem_filter] at member
  exact member.elim And.left And.left

theorem mem_names_enums_schema {document : Document} {name : Text} :
    name ∈ document.schema.enums.values.map EnumType.name ↔
      name ∈ document.schemaEnumNames ∨ name ∈ document.modelEnumNames.map Naming.pascalCase := by
  rw [enums_schema, Table.mem_map_values_ofList, List.map_append, List.mem_append, List.map_map,
    List.map_map, modelEnumNames, List.map_map]
  rfl

theorem mem_names_inputs_schema {document : Document} {name : Text} :
    name ∈ document.schema.inputs.values.map InputType.name ↔ name ∈ document.inputTypeNames := by
  rw [inputs_schema, Table.mem_map_values_ofList, List.map_map]
  rfl

/-- Every field that is declared was listed. -/
theorem exists_entry {document : Document} {subject : Subject} {field : Field}
    (listed : subject ∈ document.schema.subjects) (present : field ∈ subject.fields) :
    ∃ entry ∈ document.fieldEntries, entry.field = field := by
  rcases List.mem_append.mp listed with front | arguments
  · rcases List.mem_append.mp front with enums | inputs
    · obtain ⟨enumType, _, rfl⟩ := List.mem_map.mp enums
      cases present
    · obtain ⟨inputType, kept, rfl⟩ := List.mem_map.mp inputs
      rw [inputs_schema] at kept
      obtain ⟨type, member, rfl⟩ := List.mem_map.mp (Table.mem_of_mem_values_ofList kept)
      obtain ⟨entry, inside, rfl⟩ := List.mem_map.mp present
      exact ⟨entry, List.mem_append_left _ (List.mem_flatMap_of_mem member inside), rfl⟩
  · obtain ⟨operation, kept, rfl⟩ := List.mem_map.mp arguments
    obtain ⟨type, member, root⟩ := List.mem_flatMap.mp (mem_operations_schema kept)
    obtain ⟨kind, listing, inType, rfl⟩ := type.exists_operation root
    obtain ⟨entry, inside, rfl⟩ := List.mem_map.mp present
    exact ⟨entry, List.mem_append_right _
      (List.mem_flatMap_of_mem member (List.mem_flatMap_of_mem inType inside)), rfl⟩

theorem mem_of_mem_references {document : Document} {registry : Registry} {subject : Subject}
    {name : Text} (consistent : document.IsConsistent)
    (listed : subject ∈ document.schema.subjects)
    (member : name ∈ subject.references registry) :
    name ∈ document.modelEnumNames ∨ name ∈ document.declaredNames := by
  obtain ⟨field, present, candidate, within, place, rfl⟩ := Subject.mem_references member
  obtain ⟨entry, found, rfl⟩ := exists_entry listed present
  obtain ⟨candidateEntry, inside, rfl⟩ := List.mem_map.mp within
  simp only [TypeKind.isReferencePlace, Bool.or_eq_true, decide_eq_true_eq] at place
  simp only [declaredNames, List.mem_append]
  rcases place with input | enumeration
  · exact .inr (.inr (consistent.input entry found candidateEntry inside input))
  · rcases consistent.enumeration entry found candidateEntry inside enumeration with own | model
    · exact .inr (.inl (.inl own))
    · exact .inl model

end Document

/-! ## Modules -/

/-- A module of a consistent snapshot has one declaration for each of its subjects, whose references
stand in its body. They are all declared among the enums and the input types exactly when every
enum of the data model that is referred to is declared under the name that it is listed with. -/
theorem closed_iff_modelEnums {options : Options} {registry : Registry} {document : Document}
    {generated : List Section} (consistent : document.IsConsistent)
    (built : document.schema.sections options registry = .ok generated) :
    ∃ enums inputs arguments,
      generated = [
        { title := "ENUMS", declarations := enums },
        { title := "INPUT TYPES", declarations := inputs },
        { title := "ARGS", declarations := arguments }] ∧
      List.Forall₂ (fun subject declaration =>
        declaration.name = subject.name ∧ declaration.kind = (subject.kind.label : Text) ∧
          declaration.body = subject.body options registry)
        document.schema.subjects (enums ++ inputs ++ arguments) ∧
      ((∀ subject ∈ document.schema.subjects, ∀ name ∈ subject.references registry,
          name ∈ (enums ++ inputs).map Declaration.name) ↔
        ∀ subject ∈ document.schema.subjects, ∀ name ∈ subject.references registry,
          name ∈ document.modelEnumNames → name ∈ document.declaredNames) := by
  obtain ⟨inputs, arguments, shape, inputsBuilt, _⟩ := Schema.sections_eq_ok built
  refine ⟨_, inputs, arguments, shape, ?_, ?_⟩
  · have each := Schema.forall₂_of_sections_eq_ok built
    rw [shape] at each
    simpa using each
  · have declared (name : Text) :
        name ∈ (document.schema.enumDeclarations options ++ inputs).map Declaration.name ↔
          name ∈ document.declaredNames := by
      rw [List.map_append, List.mem_append, Schema.mem_names_enumDeclarations,
        Document.mem_names_enums_schema, Schema.map_name_inputs inputsBuilt,
        Document.mem_names_inputs_schema, Document.declaredNames, List.mem_append,
        List.mem_append]
    simp only [declared]
    constructor
    · intro closed subject listed name member _
      exact closed subject listed name member
    · intro kept subject listed name member
      rcases Document.mem_of_mem_references consistent listed member with model | known
      · exact kept subject listed name member model
      · exact known

def enumField (name : Text) : FieldEntry where
  name := "role"
  inputTypes := [{ type := name, location := Location.enumeration, isList := false }]
  isRequired := true
  isNullable := false
  isOptional := none
  zodValidatorString := none
  zodCustomErrors := none

def enumDocument (name : Text) : Document where
  enumTypes := []
  inputTypes := [{ name := "UserInput", fields := [enumField name] }]
  outputTypes := []
  modelEnums := [{ name, values := ["ADMIN"] }]

theorem isConsistent_enumDocument (name : Text) : (enumDocument name).IsConsistent where
  enumeration := by
    intro field present candidate member _
    obtain rfl := List.mem_singleton.mp present
    obtain rfl := List.mem_singleton.mp member
    exact .inr List.mem_cons_self
  input := by
    intro field present candidate member input
    obtain rfl := List.mem_singleton.mp present
    obtain rfl := List.mem_singleton.mp member
    have apart : Location.enumeration ≠ Location.inputObject := by decide
    exact absurd input apart

def enumValue (name : Text) : Json.Value :=
  .object [
    ("schema", .object [
      ("inputObjectTypes", .object [
        ("prisma", .array [.object [
          ("name", .text "UserInput"),
          ("fields", .array [.object [
            ("name", .text "role"),
            ("inputTypes", .array [.object [
              ("type", .text name), ("location", .text "enumTypes")]]),
            ("isRequired", .boolean true)]])]])])]),
    ("datamodel", .object [
      ("enums", .array [.object [
        ("name", .text name), ("values", .array [.object [("name", .text "ADMIN")]])]])])]

def enumSections (name declared : Text) : List Section :=
  [{ title := "ENUMS"
     declarations := [
       { name := declared, body := "z.nativeEnum(Prisma." ++ declared ++ ")", kind := "enum" }] },
   { title := "INPUT TYPES"
     declarations := [
       { name := "UserInput"
         body := "z.object(\x7b\n  role: z.lazy(() => " ++ name ++ "),\n\x7d).strict()"
         declaredType := some "z.ZodType<Prisma.Prisma.UserInput>" }] },
   { title := "ARGS" }]

theorem not_closed_enumDocument :
    readDocument (enumValue "role") = .valid (enumDocument "role") ∧
    (enumDocument "role").IsConsistent ∧
    (enumDocument "role").schema.sections {} Registry.default =
      .ok (enumSections "role" "Role") ∧
    ∃ subject ∈ (enumDocument "role").schema.subjects,
      ("role" : Text) ∈ subject.references Registry.default ∧
      ("role" : Text) ∉
        ((enumSections "role" "Role").flatMap Section.declarations).map Declaration.name := by
  refine ⟨rfl, isConsistent_enumDocument _, by decide +kernel, ?_⟩
  decide +kernel

theorem closed_enumDocument :
    ∃ enums inputs arguments,
      (enumDocument "Role").schema.sections {} Registry.default = .ok [
        { title := "ENUMS", declarations := enums },
        { title := "INPUT TYPES", declarations := inputs },
        { title := "ARGS", declarations := arguments }] ∧
      ∀ subject ∈ (enumDocument "Role").schema.subjects,
        ∀ name ∈ subject.references Registry.default,
          name ∈ (enums ++ inputs).map Declaration.name := by
  have built : (enumDocument "Role").schema.sections {} Registry.default =
      .ok (enumSections "Role" "Role") := by decide +kernel
  obtain ⟨enums, inputs, arguments, shape, _, closed⟩ :=
    closed_iff_modelEnums (isConsistent_enumDocument "Role") built
  refine ⟨enums, inputs, arguments, shape ▸ built, closed.mpr ?_⟩
  intro subject _ name _ model
  obtain rfl := List.mem_singleton.mp model
  have spelled : ("Role" : Text) ∈ (enumDocument "Role").declaredNames := by decide +kernel
  exact spelled

end Snapshot

end ZodValidators
