import Mathlib.Data.List.Forall2
import ZodValidators.Proofs.Rendering

/-!
# The declarations of a schema

The declarations are built one after the other from the enums, the input types and the operations.
They are all built exactly when every field is usable; otherwise the first field that is not usable
decides the failure, and nothing behind it matters.
-/

set_option autoImplicit false

namespace ZodValidators

/-! ## Subjects of declarations -/

/-- What a declaration is made for. -/
inductive Subject where
  | enumeration (enumType : EnumType)
  | input (inputType : InputType)
  | arguments (operation : Operation)

namespace Subject

def name : Subject → Text
  | .enumeration enumType => enumType.name
  | .input inputType => inputType.name
  | .arguments operation => operation.argumentsName

def kind : Subject → DeclarationKind
  | .enumeration _ => .enumeration
  | .input _ => .input
  | .arguments _ => .arguments

def fields : Subject → List Field
  | .enumeration _ => []
  | .input inputType => inputType.fields
  | .arguments operation => operation.arguments

/-- References between input types wait until they are used, since an input type may refer to one that
comes later. -/
def isDeferred : Subject → Bool
  | .input _ => true
  | .enumeration _ | .arguments _ => false

/-- The body that the declaration gets when all its fields are usable. -/
def body (options : Options) (registry : Registry) (subject : Subject) : Text :=
  match subject with
  | .enumeration enumType => (enumType.declaration options).body
  | .input _ | .arguments _ =>
    objectText (subject.fields.map (Field.text registry subject.isDeferred))

def declaration (context : BuildContext) : Subject → Except FieldFailure Declaration
  | .enumeration enumType => .ok (enumType.declaration context.options)
  | .input inputType => inputType.declaration context
  | .arguments operation => operation.declaration context

end Subject

def Schema.subjects (schema : Schema) : List Subject :=
  (schema.nativeEnums ++ schema.modelEnums).map .enumeration ++
    schema.inputs.values.map .input ++ schema.operations.map .arguments

/-- The fields of the input types and then the arguments of the queries and the mutations, each with
the name of the declaration that it belongs to. -/
def Schema.ownedFields (schema : Schema) : List (Text × Field) :=
  (schema.inputs.values.flatMap fun inputType =>
    inputType.fields.map fun field => (inputType.name, field)) ++
  (schema.queries.flatMap fun operation =>
    operation.arguments.map fun field => (operation.argumentsName, field)) ++
  (schema.mutations.flatMap fun operation =>
    operation.arguments.map fun field => (operation.argumentsName, field))

theorem Schema.ownedFields_eq_flatMap_subjects (schema : Schema) :
    schema.ownedFields = schema.subjects.flatMap fun subject =>
      subject.fields.map fun field => (subject.name, field) := by
  have enums : ((schema.nativeEnums ++ schema.modelEnums).map Subject.enumeration).flatMap
      (fun subject => subject.fields.map fun field => (subject.name, field)) = [] := by
    simp [List.flatMap_map, Subject.fields]
  rw [subjects, List.flatMap_append, List.flatMap_append, enums, List.nil_append,
    List.flatMap_map, List.flatMap_map, operations, List.flatMap_append, ownedFields,
    List.append_assoc]
  rfl

theorem Schema.declarations_eq_gather (options : Options) (registry : Registry)
    (schema : Schema) :
    schema.declarations options registry =
      gather (Subject.declaration (schema.buildContext options registry)) schema.subjects := by
  rw [subjects, gather_append, gather_append, gather_map, gather_map, gather_map]
  simp only [Subject.declaration, gather_total, declarations, sections, inputDeclarations,
    argumentDeclarations]
  cases gather (InputType.declaration (schema.buildContext options registry))
      schema.inputs.values with
  | error failure => rfl
  | ok inputs =>
      cases gather (Operation.declaration (schema.buildContext options registry))
          schema.operations with
      | error failure => rfl
      | ok arguments =>
          simp [bind, Except.bind, pure, Except.pure, enumDeclarations, buildContext]

/-! ## Failures -/

theorem BuildContext.failureOf?_objectDeclaration (context : BuildContext)
    (kind : DeclarationKind) (deferred : Bool) (name : Text) (fields : List Field) :
    failureOf? (context.objectDeclaration kind deferred name fields) =
      fields.findSome? fun field =>
        field.failure? context.registry context.declaredScalars (some name) := by
  have unmarked := failureOf?_objectBody context.registry deferred name fields
  have marked : (fields.findSome? fun field =>
      field.failure? context.registry context.declaredScalars (some name)) =
        (failureOf? (objectBody context.registry deferred name fields)).map
          (FieldFailure.markDeclared context.declaredScalars) := by
    simp only [unmarked, List.map_findSome?, Function.comp_def, Field.map_markDeclared_failure?]
  rw [marked, objectDeclaration]
  cases objectBody context.registry deferred name fields <;> rfl

theorem Subject.failureOf?_declaration (context : BuildContext) (subject : Subject) :
    failureOf? (subject.declaration context) =
      subject.fields.findSome? fun field =>
        field.failure? context.registry context.declaredScalars (some subject.name) := by
  cases subject with
  | enumeration enumType => rfl
  | input inputType => exact context.failureOf?_objectDeclaration ..
  | arguments operation => exact context.failureOf?_objectDeclaration ..

private theorem findSome?_flatMap {α β γ : Type} (items : List α) (parts : α → List β)
    (choose : β → Option γ) :
    (items.flatMap parts).findSome? choose =
      items.findSome? fun item => (parts item).findSome? choose := by
  induction items with
  | nil => rfl
  | cons item rest ih =>
      rw [List.flatMap_cons, List.findSome?_append, ih, List.findSome?_cons]
      cases (parts item).findSome? choose <;> rfl

theorem Schema.failureOf?_declarations (options : Options) (registry : Registry)
    (schema : Schema) :
    failureOf? (schema.declarations options registry) =
      schema.ownedFields.findSome? fun (owner, field) =>
        field.failure? registry schema.scalars (some owner) := by
  rw [declarations_eq_gather, failureOf?_gather, ownedFields_eq_flatMap_subjects,
    findSome?_flatMap]
  congr 1
  funext subject
  rw [Subject.failureOf?_declaration, List.findSome?_map]
  rfl

/-! ## Outcomes -/

theorem gather_eq_ok_iff_forall₂ {α β ε : Type} {build : α → Except ε β} {items : List α}
    {results : List β} :
    gather build items = .ok results ↔
      List.Forall₂ (fun item result => build item = .ok result) items results := by
  rw [gather_eq_ok_iff, ← List.forall₂_eq_eq_eq, List.forall₂_map_left_iff,
    List.forall₂_map_right_iff]

theorem exists_of_forall₂ {α β : Type} {related : α → β → Prop} {items : List α}
    {results : List β} {result : β} (all : List.Forall₂ related items results)
    (member : result ∈ results) : ∃ item ∈ items, related item result := by
  induction all with
  | nil => cases member
  | @cons item own rest others first _ ih =>
      rcases List.mem_cons.mp member with rfl | later
      · exact ⟨item, List.mem_cons_self, first⟩
      · obtain ⟨found, present, relates⟩ := ih later
        exact ⟨found, List.mem_cons_of_mem _ present, relates⟩

theorem BuildContext.objectDeclaration_eq_ok {context : BuildContext} {kind : DeclarationKind}
    {deferred : Bool} {name : Text} {fields : List Field} {declaration : Declaration}
    (built : context.objectDeclaration kind deferred name fields = .ok declaration) :
    declaration.name = name ∧ declaration.kind = (kind.label : Text) ∧
      (∀ field ∈ fields, field.IsUsable context.registry) ∧
      declaration.body = objectText (fields.map (Field.text context.registry deferred)) := by
  rw [objectDeclaration] at built
  cases compiled : objectBody context.registry deferred name fields with
  | error failure => simp [compiled] at built
  | ok body =>
      simp only [compiled, Except.ok.injEq] at built
      subst declaration
      exact ⟨rfl, rfl, objectBody_eq_ok_iff.mp compiled⟩

theorem Subject.declaration_eq_ok {context : BuildContext} {subject : Subject}
    {declaration : Declaration} (built : subject.declaration context = .ok declaration) :
    declaration.name = subject.name ∧ declaration.kind = (subject.kind.label : Text) ∧
      (∀ field ∈ subject.fields, field.IsUsable context.registry) ∧
      declaration.body = subject.body context.options context.registry := by
  cases subject with
  | enumeration enumType =>
      cases built
      exact ⟨rfl, rfl, by simp [fields], rfl⟩
  | input inputType => exact BuildContext.objectDeclaration_eq_ok built
  | arguments operation => exact BuildContext.objectDeclaration_eq_ok built

theorem Schema.sections_eq_ok {options : Options} {registry : Registry} {schema : Schema}
    {generated : List Section} (built : schema.sections options registry = .ok generated) :
    ∃ inputs arguments,
      generated = [
        { title := "ENUMS", declarations := schema.enumDeclarations options },
        { title := "INPUT TYPES", declarations := inputs },
        { title := "ARGS", declarations := arguments }] ∧
      List.Forall₂ (fun inputType declaration =>
        inputType.declaration (schema.buildContext options registry) = .ok declaration)
          schema.inputs.values inputs ∧
      List.Forall₂ (fun operation declaration =>
        operation.declaration (schema.buildContext options registry) = .ok declaration)
          schema.operations arguments := by
  rw [sections] at built
  obtain ⟨inputs, inputsBuilt, behindInputs⟩ := bind_eq_ok_iff.mp built
  obtain ⟨arguments, argumentsBuilt, result⟩ := bind_eq_ok_iff.mp behindInputs
  exact ⟨inputs, arguments, (Except.ok.inj result).symm,
    gather_eq_ok_iff_forall₂.mp inputsBuilt, gather_eq_ok_iff_forall₂.mp argumentsBuilt⟩

theorem Schema.declarations_of_sections_eq_ok {options : Options} {registry : Registry}
    {schema : Schema} {generated : List Section}
    (built : schema.sections options registry = .ok generated) :
    schema.declarations options registry = .ok (generated.flatMap Section.declarations) := by
  rw [declarations, built]
  rfl

theorem Schema.forall₂_of_sections_eq_ok {options : Options} {registry : Registry} {schema : Schema}
    {generated : List Section} (built : schema.sections options registry = .ok generated) :
    List.Forall₂ (fun subject declaration =>
      declaration.name = subject.name ∧ declaration.kind = (subject.kind.label : Text) ∧
        declaration.body = subject.body options registry)
      schema.subjects (generated.flatMap Section.declarations) := by
  have declared := declarations_of_sections_eq_ok built
  rw [declarations_eq_gather, gather_eq_ok_iff_forall₂] at declared
  apply declared.imp
  intro subject declaration succeeded
  obtain ⟨name, kind, _, body⟩ := Subject.declaration_eq_ok succeeded
  exact ⟨name, kind, body⟩

theorem Schema.mem_names_enumDeclarations {options : Options} {schema : Schema} {name : Text} :
    name ∈ (schema.enumDeclarations options).map Declaration.name ↔
      name ∈ schema.enums.values.map EnumType.name := by
  have named : Declaration.name ∘ EnumType.declaration options = EnumType.name := rfl
  rw [enumDeclarations, List.map_map, named, nativeEnums, modelEnums]
  constructor
  · intro member
    obtain ⟨enumType, listed, rfl⟩ := List.mem_map.mp member
    rcases List.mem_append.mp listed with native | model
    · exact List.mem_map_of_mem (List.mem_filter.mp native).1
    · exact List.mem_map_of_mem (List.mem_filter.mp model).1
  · intro member
    obtain ⟨enumType, listed, rfl⟩ := List.mem_map.mp member
    apply List.mem_map_of_mem
    cases native : enumType.isNative <;> simp [listed, native]

theorem Schema.map_name_inputs {context : BuildContext} {inputTypes : List InputType}
    {inputs : List Declaration}
    (built : List.Forall₂ (fun inputType declaration =>
      inputType.declaration context = .ok declaration) inputTypes inputs) :
    inputs.map Declaration.name = inputTypes.map InputType.name := by
  rw [← List.forall₂_eq_eq_eq, List.forall₂_map_left_iff, List.forall₂_map_right_iff]
  apply List.Forall₂.flip
  apply built.imp
  intro inputType declaration succeeded
  exact (BuildContext.objectDeclaration_eq_ok succeeded).1

theorem Schema.exists_declarations_iff {options : Options} {registry : Registry}
    {schema : Schema} :
    (∃ declarations, schema.declarations options registry = .ok declarations) ↔
      ∀ owned ∈ schema.ownedFields, owned.2.IsUsable registry := by
  rw [← failureOf?_eq_none_iff, failureOf?_declarations, List.findSome?_eq_none_iff]
  simp only [Field.failure?_eq_none_iff]

theorem Schema.exists_sections_iff {options : Options} {registry : Registry} {schema : Schema} :
    (∃ generated, schema.sections options registry = .ok generated) ↔
      ∀ owned ∈ schema.ownedFields, owned.2.IsUsable registry := by
  refine Iff.trans ?_ (exists_declarations_iff :
    (∃ declarations, schema.declarations options registry = .ok declarations) ↔ _)
  constructor
  · rintro ⟨generated, built⟩
    exact ⟨_, declarations_of_sections_eq_ok built⟩
  · rintro ⟨declarations, built⟩
    rw [Schema.declarations] at built
    cases result : schema.sections options registry with
    | error failure => rw [result] at built; cases built
    | ok generated => exact ⟨generated, rfl⟩

theorem Schema.declarations_eq_error_iff {options : Options} {registry : Registry}
    {schema : Schema} {failure : FieldFailure} :
    schema.declarations options registry = .error failure ↔
      ∃ before owner field behind,
        schema.ownedFields = before ++ (owner, field) :: behind ∧
        (∀ earlier ∈ before, earlier.2.IsUsable registry) ∧
        field.FailsAs registry schema.scalars (some owner) failure := by
  rw [← failureOf?_eq_some_iff, failureOf?_declarations, List.findSome?_eq_some_iff]
  simp only [Field.failure?_eq_none_iff, Field.failure?_eq_some_iff, Prod.exists]
  constructor
  · rintro ⟨before, owner, field, behind, split, fails, usable⟩
    exact ⟨before, owner, field, behind, split, usable, fails⟩
  · rintro ⟨before, owner, field, behind, split, usable, fails⟩
    exact ⟨before, owner, field, behind, split, fails, usable⟩

theorem Schema.map_name_of_declarations_eq_ok {options : Options} {registry : Registry}
    {schema : Schema} {declarations : List Declaration}
    (built : schema.declarations options registry = .ok declarations) :
    declarations.map (fun declaration => (declaration.kind, declaration.name)) =
      schema.subjects.map fun subject => ((subject.kind.label : Text), subject.name) := by
  rw [declarations_eq_gather, gather_eq_ok_iff_forall₂] at built
  rw [eq_comm, ← List.forall₂_eq_eq_eq, List.forall₂_map_left_iff, List.forall₂_map_right_iff]
  apply built.imp
  intro subject declaration succeeded
  obtain ⟨name, kind, _, _⟩ := Subject.declaration_eq_ok succeeded
  rw [name, kind]

/-- The declarations are built exactly when every field has a candidate other than null and each of
these refers to a declared place or has a zod constructor. There is then one declaration for each
enum, input type and operation, in this order. Otherwise the failure is that of the first field
that fails. -/
theorem Schema.declarations_outcome (options : Options) (registry : Registry) (schema : Schema) :
    ((∃ declarations, schema.declarations options registry = .ok declarations) ↔
      ∀ owned ∈ schema.ownedFields, owned.2.IsUsable registry) ∧
    (∀ declarations, schema.declarations options registry = .ok declarations →
      declarations.map (fun declaration => (declaration.kind, declaration.name)) =
        schema.nativeEnums.map (fun enumType => (("enum" : Text), enumType.name)) ++
        schema.modelEnums.map (fun enumType => (("enum" : Text), enumType.name)) ++
        schema.inputs.values.map (fun inputType => (("input" : Text), inputType.name)) ++
        schema.queries.map (fun operation => (("args" : Text), operation.argumentsName)) ++
        schema.mutations.map (fun operation => (("args" : Text), operation.argumentsName))) ∧
    ∀ failure, schema.declarations options registry = .error failure ↔
      ∃ before owner field behind,
        schema.ownedFields = before ++ (owner, field) :: behind ∧
        (∀ earlier ∈ before, earlier.2.IsUsable registry) ∧
        field.FailsAs registry schema.scalars (some owner) failure := by
  refine ⟨exists_declarations_iff, ?_, fun failure => declarations_eq_error_iff⟩
  intro declarations built
  rw [map_name_of_declarations_eq_ok built]
  simp [subjects, operations, Subject.name, Subject.kind, DeclarationKind.label,
    Function.comp_def]

end ZodValidators
