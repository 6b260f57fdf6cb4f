import ZodValidators.Proofs.Sdl.Places
import ZodValidators.Proofs.Traversal

/-!
# Lines of defined fields

A field of an input type and an argument of a root field are declared on one line, which can be read
off their definition and the names that all documents define.
-/

set_option autoImplicit false

namespace ZodValidators

namespace Sdl

/-- The number of lists around the name of a type. -/
def TypeExpr.depth : TypeExpr → Nat
  | .named _ _ => 0
  | .list item _ => item.depth + 1

def InputValue.zodArguments (value : InputValue) : List (String × Value) :=
  ((value.directives.filter fun directive => directive.name = "zod").head?.map
    Directive.arguments).getD []

/-- What the first directive `zod` says under a name. Of several arguments the last one counts, and
a string is taken as it is. -/
def InputValue.zodText (value : InputValue) (name : String) : Text :=
  match (value.zodArguments.filter fun argument => argument.1 = name).getLast? with
  | none => []
  | some (_, .text content) => content
  | some (_, other) => other.constant.inserted

/-- What stands for the type of a field in front of its modifiers: a reference to an enum or an
input type of the definitions, or else the constructor of a scalar with the custom text. -/
def InputValue.base? (registry : Registry) (definitions : List Definition) (deferred : Bool)
    (value : InputValue) : Option Text :=
  let name := value.type.innermost
  if name ∈ enumNames definitions ∨ name ∈ inputNames definitions then
    if deferred then some ("z.lazy(() => " ++ name ++ ")") else some name
  else
    (registry.zodType? name).map fun zodType =>
      "z." ++ zodType ++ "(" ++ value.zodText "errors" ++ ")" ++ value.zodText "validator"

/-- The line of a field: a list at any depth is an array, a field that may be left out is optional,
and a type that null belongs to is nullable. -/
def InputValue.line? (registry : Registry) (definitions : List Definition) (deferred : Bool)
    (value : InputValue) : Option Text :=
  (value.base? registry definitions deferred).map fun base =>
    "  " ++ value.name ++ ": " ++ base ++
      (if value.type.depth ≠ 0 then ".array()" else "" : String) ++
      (if value.type.isNonNull = false ∨ value.default.isSome then ".optional()" else "" : String) ++
      (if value.type.isNonNull = false then ".nullable()" else "" : String) ++ ","

theorem TypeExpr.isList_eq_true_iff {type : TypeExpr} : type.isList = true ↔ type.depth ≠ 0 := by
  cases type <;> simp [isList, depth]

/-! ## Custom text -/

theorem Directive.argument_eq (directive : Directive) (name : String) :
    directive.argument name =
      ((directive.arguments.filter fun argument => argument.1 = name).getLast?.map
        fun argument => argument.2.constant).getD .null := by
  rw [argument, List.getLast?_eq_head?_reverse, ← List.filter_reverse, List.head?_filter]
  cases directive.arguments.reverse.find? fun argument => argument.1 = name <;> rfl

theorem InputValue.inserted_customText (value : InputValue) (name : String) :
    (value.customText name).inserted = value.zodText name := by
  rw [customText, zod?, zodText, zodArguments, List.head?_filter]
  cases value.directives.find? fun directive => directive.name = "zod" with
  | none => exact Constant.inserted_null
  | some directive =>
      simp only [Option.map_some, Option.getD_some, directive.argument_eq]
      cases (directive.arguments.filter fun argument => argument.1 = name).getLast? with
      | none => exact Constant.inserted_null
      | some argument =>
          obtain ⟨_, given⟩ := argument
          cases given with
          | text content => exact Constant.inserted_text content
          | null | boolean | integer | real | enumeration | list | object => rfl

example : InputValue.zodText
    { name := "tags", type := .named "ID" false
      directives := [
        { name := "zod"
          arguments := [("validator", .text ".max(9)"), ("validator", .text ".min(1)")] },
        { name := "zod", arguments := [("errors", .text "E")] }] } "validator" = ".min(1)" := by
  rfl

/-! ## Usable definitions -/

theorem InputValue.nonNullCandidates_of_isUsable {registry : Registry}
    {definitions : List Definition} {value : InputValue}
    (usable : (value.locatedField definitions).IsUsable registry) :
    (value.locatedField definitions).nonNullCandidates = [{
      name := value.type.innermost
      location := placeOf definitions value.type.innermost
      isList := value.type.isList }] := by
  have filled := usable.1
  simp only [Field.nonNullCandidates, locatedField, List.filter_cons, List.filter_nil] at filled ⊢
  split
  · rfl
  · next null => simp [null] at filled

theorem InputValue.base?_of_isUsable {registry : Registry} {definitions : List Definition}
    {value : InputValue} (deferred : Bool)
    (usable : (value.locatedField definitions).IsUsable registry) :
    value.base? registry definitions deferred =
      some ((({
        name := value.type.innermost
        location := placeOf definitions value.type.innermost
        isList := value.type.isList } : TypeRef).rendering registry deferred).text
          (value.locatedField definitions)) := by
  by_cases referred : value.type.innermost ∈ enumNames definitions ∨
      value.type.innermost ∈ inputNames definitions
  · rw [base?, if_pos referred,
      TypeRef.rendering_of_isReferencePlace (isReferencePlace_placeOf.mpr referred)]
    cases deferred <;> rfl
  · have scalar := mt isReferencePlace_placeOf.mp referred
    have known := usable.2 _ (by
      rw [nonNullCandidates_of_isUsable usable]
      exact List.mem_singleton_self _)
    obtain ⟨_, zodType, registered, _⟩ :=
      (TypeRef.isKnown_iff_of_not_isReferencePlace scalar).mp known
    have found : registry.zodType? value.type.innermost = some zodType := registered
    rw [base?, if_neg referred, found, TypeRef.rendering_of_not_isReferencePlace scalar, found,
      ← inserted_customText, ← inserted_customText]
    rfl

theorem InputValue.line?_of_isUsable {registry : Registry} {definitions : List Definition}
    {value : InputValue} (deferred : Bool)
    (usable : (value.locatedField definitions).IsUsable registry) :
    value.line? registry definitions deferred =
      some ((value.locatedField definitions).text registry deferred) := by
  rw [line?, base?_of_isUsable deferred usable, Option.map_some, Field.text, Field.expression,
    nonNullCandidates_of_isUsable usable]
  have lists : (value.type.isList = true) = (value.type.depth ≠ 0) :=
    propext TypeExpr.isList_eq_true_iff
  have leavable : ((value.locatedField definitions).optional = true) =
      (value.type.isNonNull = false ∨ value.default.isSome) := by
    cases nonNull : value.type.isNonNull <;> cases given : value.default <;>
      simp [locatedField, field, nonNull, given]
  have nullable : ((value.locatedField definitions).nullable = true) =
      (value.type.isNonNull = false) := by
    simp [locatedField, field]
  have name : (value.locatedField definitions).name = value.name := rfl
  simp only [Field.candidateText, Expression.modifiers, lists, leavable, nullable, name,
    Text.ofString_append, List.append_assoc]

example : InputValue.line? Registry.default [.input "Node" [] none] true
    { name := "tags", type := .list (.named "ID" true) false } =
      some "  tags: z.string().array().optional().nullable()," := by
  rfl

/-! ## Bodies -/

def Declares (registry : Registry) (definitions : List Definition) (deferred : Bool) (name : Text)
    (values : List InputValue) (declaration : Declaration) : Prop :=
  declaration.name = name ∧
    ∃ lines, values.map (InputValue.line? registry definitions deferred) = lines.map some ∧
      declaration.body = objectText lines

theorem declares_of_objectDeclaration {context : BuildContext} {kind : DeclarationKind}
    {deferred : Bool} {name : Text} {definitions : List Definition} {values : List InputValue}
    {declaration : Declaration}
    (built : context.objectDeclaration kind deferred name
      (values.map (·.locatedField definitions)) = .ok declaration) :
    Declares context.registry definitions deferred name values declaration := by
  obtain ⟨named, _, usable, body⟩ := BuildContext.objectDeclaration_eq_ok built
  refine ⟨named, _, ?_, body⟩
  rw [List.map_map, List.map_map]
  apply List.map_congr_left
  intro value member
  exact InputValue.line?_of_isUsable deferred (usable _ (List.mem_map_of_mem member))

end Sdl

namespace Schema

/-- Every field that a declaration of documents validates is defined in them. -/
theorem exists_locatedField {documents : List Sdl.Document} {subject : Subject} {field : Field}
    (member : subject ∈ (ofDocuments documents).subjects) (present : field ∈ subject.fields) :
    ∃ value : Sdl.InputValue, field = value.locatedField documents.flatten := by
  rw [subjects, List.mem_append, List.mem_append, List.mem_map, List.mem_map, List.mem_map] at member
  obtain (⟨enumType, _, rfl⟩ | ⟨inputType, defined, rfl⟩) | ⟨operation, defined, rfl⟩ := member
  · cases present
  · rw [inputs_ofDocuments, List.mem_map] at defined
    obtain ⟨name, _, rfl⟩ := defined
    obtain ⟨value, _, rfl⟩ := List.mem_map.mp present
    exact ⟨value, rfl⟩
  · have shown := List.mem_map_of_mem
      (f := fun operation => (operation.argumentsName, operation.arguments)) defined
    rw [operations_ofDocuments, List.mem_map] at shown
    obtain ⟨rootField, _, same⟩ := shown
    have arguments : _ = operation.arguments := congrArg Prod.snd same
    rw [Subject.fields, ← arguments] at present
    obtain ⟨value, _, rfl⟩ := List.mem_map.mp present
    exact ⟨value, rfl⟩

def nodeDocument : Sdl.Document := [
  .input "Node" [
    { name := "next", type := .named "Node" false },
    { name := "tags", type := .list (.named "ID" true) true
      directives := [{ name := "zod", arguments := [("validator", .text ".min(1)")] }] }] none,
  .object "Query" [
    { name := "find", arguments := [{ name := "where", type := .named "Node" true }] }]]

theorem exists_sections_nodeDocument : ∃ generated,
    (ofDocuments [nodeDocument]).sections {} Registry.default = .ok generated := ⟨_, rfl⟩

end Schema

end ZodValidators
