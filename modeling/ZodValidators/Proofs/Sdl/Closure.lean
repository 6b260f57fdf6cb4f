import ZodValidators.Proofs.Sdl.FieldLines

/-!
# Closed modules

The declarations of documents refer only to each other. A reference that is looked up at once stands
behind the declaration that it names, so that this order is that of use; any other reference waits
until the whole module is there.
-/

set_option autoImplicit false

namespace ZodValidators

namespace Sdl

/-- How what stands for a candidate fits into its module. A constructor is never used in the place
of an enum or an input type, and a reference has its declaration. A direct one stands only in the
body of arguments, behind all that can be referred to. -/
inductive Resolves (definitions : List Definition) (referable earlier : List Declaration)
    (kind : DeclarationKind) (candidate : TypeRef) : Rendering → Prop where
  | construction {zodType : Text} :
      (∀ name : String, candidate.name = name →
        name ∉ enumNames definitions ∧ name ∉ inputNames definitions) →
      Resolves definitions referable earlier kind candidate (.construction zodType)
  | lazyReference {name : Text} :
      name ∈ referable.map Declaration.name →
      Resolves definitions referable earlier kind candidate (.lazyReference name)
  | directReference {name : Text} :
      kind = .arguments → referable <+: earlier → name ∈ referable.map Declaration.name →
      name ∈ earlier.map Declaration.name →
      Resolves definitions referable earlier kind candidate (.directReference name)

theorem InputValue.resolves {registry : Registry} {definitions : List Definition}
    {referable earlier : List Declaration} {kind : DeclarationKind} {deferred : Bool}
    (value : InputValue)
    (declared : ∀ name, name ∈ enumNames definitions ∨ name ∈ inputNames definitions →
      (name : Text) ∈ referable.map Declaration.name)
    (direct : deferred = false → kind = .arguments ∧ referable <+: earlier) {candidate : TypeRef}
    (member : candidate ∈ (value.locatedField definitions).candidates) :
    Resolves definitions referable earlier kind candidate
      (candidate.rendering registry deferred) := by
  obtain rfl := List.mem_singleton.mp member
  by_cases referred : value.type.innermost ∈ enumNames definitions ∨
      value.type.innermost ∈ inputNames definitions
  · have found := declared _ referred
    rw [TypeRef.rendering_of_isReferencePlace (isReferencePlace_placeOf.mpr referred)]
    cases deferred with
    | true => exact .lazyReference found
    | false =>
        obtain ⟨arguments, front⟩ := direct rfl
        exact .directReference arguments front found ((front.map Declaration.name).subset found)
  · rw [TypeRef.rendering_of_not_isReferencePlace (mt isReferencePlace_placeOf.mp referred)]
    apply Resolves.construction
    intro name same
    obtain rfl := Text.ofString_injective same
    exact not_or.mp referred

end Sdl

namespace Schema

private theorem mem_or_prefix {α : Type} {front back earlier later : List α} {item : α}
    (split : front ++ back = earlier ++ item :: later) :
    item ∈ front ∨ item ∈ back ∧ front <+: earlier := by
  rcases List.append_eq_append_iff.mp split with ⟨middle, rfl, same⟩ | ⟨middle, rfl, same⟩
  · exact .inr ⟨by simp [same], List.prefix_append _ _⟩
  · cases middle with
    | nil =>
        obtain rfl : item :: later = back := same
        exact .inr ⟨List.mem_cons_self, by simp⟩
    | cons first rest =>
        obtain ⟨rfl, _⟩ := List.cons.inj same
        exact .inl (by simp)

/-- Every declaration is that of a subject, and the arguments stand behind everything else. -/
theorem exists_subject {options : Options} {registry : Registry} {schema : Schema}
    {inputs arguments earlier later : List Declaration} {declaration : Declaration}
    (inputsBuilt : List.Forall₂ (fun inputType declaration =>
      inputType.declaration (schema.buildContext options registry) = .ok declaration)
      schema.inputs.values inputs)
    (argumentsBuilt : List.Forall₂ (fun operation declaration =>
      operation.declaration (schema.buildContext options registry) = .ok declaration)
      schema.operations arguments)
    (split : schema.enumDeclarations options ++ inputs ++ arguments =
      earlier ++ declaration :: later) :
    ∃ subject ∈ schema.subjects,
      subject.declaration (schema.buildContext options registry) = .ok declaration ∧
        (subject.kind = .arguments → schema.enumDeclarations options ++ inputs <+: earlier) := by
  rcases mem_or_prefix split with member | ⟨member, front⟩
  · rcases List.mem_append.mp member with enumeration | input
    · obtain ⟨enumType, listed, rfl⟩ := List.mem_map.mp enumeration
      refine ⟨.enumeration enumType, ?_, rfl, fun kind => nomatch kind⟩
      exact List.mem_append_left _ (List.mem_append_left _ (List.mem_map_of_mem listed))
    · obtain ⟨inputType, listed, built⟩ := exists_of_forall₂ inputsBuilt input
      refine ⟨.input inputType, ?_, built, fun kind => nomatch kind⟩
      exact List.mem_append_left _ (List.mem_append_right _ (List.mem_map_of_mem listed))
  · obtain ⟨operation, listed, built⟩ := exists_of_forall₂ argumentsBuilt member
    refine ⟨.arguments operation, ?_, built, fun _ => front⟩
    exact List.mem_append_right _ (List.mem_map_of_mem listed)

private theorem mem_map_name_referable {options : Options} {context : BuildContext}
    {documents : List Sdl.Document} {inputs : List Declaration} {name : String}
    (inputsBuilt : List.Forall₂
      (fun inputType declaration => inputType.declaration context = .ok declaration)
      (ofDocuments documents).inputs.values inputs)
    (defined : name ∈ Sdl.enumNames documents.flatten ∨ name ∈ Sdl.inputNames documents.flatten) :
    (name : Text) ∈
      ((ofDocuments documents).enumDeclarations options ++ inputs).map Declaration.name := by
  rw [List.map_append, List.mem_append]
  rcases defined with enumeration | input
  · left
    rw [mem_names_enumDeclarations, map_name_enums_ofDocuments]
    exact List.mem_map_of_mem enumeration
  · right
    rw [map_name_inputs inputsBuilt, inputs_ofDocuments, List.map_map]
    exact List.mem_map.mpr ⟨name, input, rfl⟩

/-- Whenever the declarations of documents are built, every candidate resolves in the body that it
stands in: references are declared in the sections of enums and input types, a direct one stands
behind its declaration, and everything else is neither an enum nor an input type. -/
theorem resolves_ofDocuments {options : Options} {registry : Registry}
    {documents : List Sdl.Document} {generated : List Section}
    (built : (ofDocuments documents).sections options registry = .ok generated) :
    ∃ enums inputs arguments,
      generated = [
        { title := "ENUMS", declarations := enums },
        { title := "INPUT TYPES", declarations := inputs },
        { title := "ARGS", declarations := arguments }] ∧
      ∀ earlier declaration later,
        generated.flatMap Section.declarations = earlier ++ declaration :: later →
        ∃ subject ∈ (ofDocuments documents).subjects,
          declaration.name = subject.name ∧ declaration.kind = (subject.kind.label : Text) ∧
          declaration.body = subject.body options registry ∧
          ∀ field ∈ subject.fields, ∀ candidate ∈ field.candidates,
            Sdl.Resolves documents.flatten (enums ++ inputs) earlier subject.kind candidate
              (candidate.rendering registry subject.isDeferred) := by
  obtain ⟨inputs, arguments, shape, inputsBuilt, argumentsBuilt⟩ := sections_eq_ok built
  refine ⟨_, inputs, arguments, shape, ?_⟩
  intro earlier declaration later split
  have joined : (ofDocuments documents).enumDeclarations options ++ inputs ++ arguments =
      earlier ++ declaration :: later := by
    rw [← split, shape]
    simp
  obtain ⟨subject, listed, succeeded, front⟩ := exists_subject inputsBuilt argumentsBuilt joined
  obtain ⟨name, kind, _, body⟩ := Subject.declaration_eq_ok succeeded
  refine ⟨subject, listed, name, kind, body, ?_⟩
  intro field present candidate member
  -- Only arguments have fields whose references do not wait, and they are declared last.
  have direct : subject.isDeferred = false → subject.kind = .arguments ∧
      (ofDocuments documents).enumDeclarations options ++ inputs <+: earlier := by
    intro atOnce
    cases subject with
    | enumeration enumType => cases present
    | input inputType => cases atOnce
    | arguments operation => exact ⟨rfl, front rfl⟩
  obtain ⟨value, rfl⟩ := exists_locatedField listed present
  exact value.resolves (fun _ => mem_map_name_referable inputsBuilt) direct member

theorem resolves_nodeDocument :
    ∃ generated, (ofDocuments [nodeDocument]).sections {} Registry.default = .ok generated ∧
      ∃ enums inputs arguments,
        generated = [
          { title := "ENUMS", declarations := enums },
          { title := "INPUT TYPES", declarations := inputs },
          { title := "ARGS", declarations := arguments }] ∧
        ∀ earlier declaration later,
          generated.flatMap Section.declarations = earlier ++ declaration :: later →
          ∃ subject ∈ (ofDocuments [nodeDocument]).subjects,
            declaration.name = subject.name ∧ declaration.kind = (subject.kind.label : Text) ∧
            declaration.body = subject.body {} Registry.default ∧
            ∀ field ∈ subject.fields, ∀ candidate ∈ field.candidates,
              Sdl.Resolves nodeDocument (enums ++ inputs) earlier subject.kind candidate
                (candidate.rendering Registry.default subject.isDeferred) := by
  obtain ⟨generated, built⟩ := exists_sections_nodeDocument
  have flat : [nodeDocument].flatten = nodeDocument := rfl
  have described := resolves_ofDocuments built
  rw [flat] at described
  exact ⟨generated, built, described⟩

end Schema

end ZodValidators
