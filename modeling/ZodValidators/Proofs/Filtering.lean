import ZodValidators.NameFilter
import ZodValidators.Proofs.Traversal

/-!
# Filters and declarations

Filters look at names only, and what becomes of a subject does not depend on the other subjects.
Filtering a schema therefore selects among the outcomes of the schema as a whole.
-/

set_option autoImplicit false

namespace ZodValidators

/-! ## Restricted schemas -/

theorem Table.values_filter {α : Type} (table : Table α) (keep : α → Bool) :
    (table.filter keep).values = table.values.filter keep := by
  rw [values, values, List.filter_map]
  rfl

theorem Table.filter_filter {α : Type} (table : Table α) (keep also : α → Bool) :
    (table.filter keep).filter also = table.filter fun value => keep value && also value := by
  apply Table.ext
  simp only [filter, List.filter_filter]
  exact List.filter_congr fun _ _ => Bool.and_comm ..

/-- The schema with only those enums, input types and operations whose declarations have a name
that is kept. -/
def Schema.restrict (keep : Text → Bool) (schema : Schema) : Schema :=
  { schema with
    enums := schema.enums.filter fun enumType => keep enumType.name
    inputs := schema.inputs.filter fun inputType => keep inputType.name
    queries := schema.queries.filter fun operation => keep operation.argumentsName
    mutations := schema.mutations.filter fun operation => keep operation.argumentsName }

theorem Schema.restrict_restrict (keep also : Text → Bool) (schema : Schema) :
    (schema.restrict keep).restrict also = schema.restrict fun name => keep name && also name := by
  simp only [restrict, Table.filter_filter, List.filter_filter, Bool.and_comm]

theorem Schema.restrict_true (schema : Schema) : schema.restrict (fun _ => true) = schema := by
  have keptAll {α : Type} (items : List α) : items.filter (fun _ => true) = items :=
    List.filter_eq_self.mpr fun _ _ => rfl
  simp only [restrict, Table.filter, keptAll]

theorem Schema.subjects_restrict (keep : Text → Bool) (schema : Schema) :
    (schema.restrict keep).subjects = schema.subjects.filter fun subject => keep subject.name := by
  simp only [subjects, List.filter_append, List.filter_map, List.map_append, nativeEnums,
    modelEnums, operations, restrict, Table.values_filter, List.filter_filter]
  simp only [Function.comp_def, Subject.name, Bool.and_comm]

def NameFilter.keepsAll (filters : List NameFilter) (name : Text) : Bool :=
  filters.all fun filter => filter.keeps name

theorem NameFilter.applyAll_eq_restrict (filters : List NameFilter) (schema : Schema) :
    applyAll filters schema = schema.restrict (keepsAll filters) := by
  induction filters generalizing schema with
  | nil => exact schema.restrict_true.symm
  | cons filter rest ih => exact (ih _).trans (schema.restrict_restrict filter.keeps _)

theorem NameFilter.keepsAll_congr {filters others : List NameFilter}
    (same : ∀ filter, filter ∈ filters ↔ filter ∈ others) : keepsAll filters = keepsAll others := by
  funext name
  apply Bool.eq_iff_iff.mpr
  simp only [keepsAll, List.all_eq_true, same]

/-! ## Outcomes -/

/-- What becomes of each subject, with its name: its declaration or its failure. Outcomes behind a
failure are listed too. -/
def Schema.outcomes (options : Options) (registry : Registry) (schema : Schema) :
    List (Text × Except FieldFailure Declaration) :=
  schema.subjects.map fun subject =>
    (subject.name, subject.declaration (schema.buildContext options registry))

theorem Schema.declarations_eq_gather_outcomes (options : Options) (registry : Registry)
    (schema : Schema) :
    schema.declarations options registry =
      gather Prod.snd (schema.outcomes options registry) := by
  rw [declarations_eq_gather, outcomes, gather_map]

theorem Schema.declarations_restrict (options : Options) (registry : Registry) (schema : Schema)
    (keep : Text → Bool) :
    (schema.restrict keep).declarations options registry =
      gather Prod.snd ((schema.outcomes options registry).filter fun outcome => keep outcome.1) := by
  rw [declarations_eq_gather, subjects_restrict, outcomes, List.filter_map, gather_map]
  rfl

theorem Schema.name_of_mem_outcomes {options : Options} {registry : Registry} {schema : Schema}
    {name : Text} {declaration : Declaration}
    (member : (name, .ok declaration) ∈ schema.outcomes options registry) :
    declaration.name = name := by
  obtain ⟨subject, _, same⟩ := List.mem_map.mp member
  obtain ⟨rfl, built⟩ := Prod.mk.inj same
  exact (Subject.declaration_eq_ok built).1

theorem Schema.outcomes_of_declarations_eq_ok {options : Options} {registry : Registry}
    {schema : Schema} {declarations : List Declaration}
    (built : schema.declarations options registry = .ok declarations) :
    schema.outcomes options registry =
      declarations.map fun declaration => (declaration.name, .ok declaration) := by
  rw [declarations_eq_gather_outcomes, gather_eq_ok_iff] at built
  have named : ∀ name declaration, (name, .ok declaration) ∈ schema.outcomes options registry →
      declaration.name = name := fun _ _ => name_of_mem_outcomes
  -- Nothing but the names is left of the schema, which a shorter list of outcomes does not have.
  generalize schema.outcomes options registry = outcomes at built named ⊢
  induction declarations generalizing outcomes with
  | nil => exact List.map_eq_nil_iff.mp built
  | cons declaration rest ih =>
      obtain ⟨⟨name, result⟩, others, rfl, rfl, following⟩ := List.map_eq_cons_iff.mp built
      rw [List.map_cons, named name declaration List.mem_cons_self,
        ih others following fun _ _ member => named _ _ (List.mem_cons_of_mem _ member)]

theorem Schema.declarations_restrict_of_eq_ok {options : Options} {registry : Registry}
    {schema : Schema} {declarations : List Declaration}
    (built : schema.declarations options registry = .ok declarations) (keep : Text → Bool) :
    (schema.restrict keep).declarations options registry =
      .ok (declarations.filter fun declaration => keep declaration.name) := by
  rw [declarations_restrict, outcomes_of_declarations_eq_ok built, List.filter_map, gather_map,
    gather_total, List.map_id']
  rfl

/-- Declaring a filtered schema selects among the outcomes of the whole schema, in their order: the
declarations if all of the selected subjects have one, or else the first failure among them. If the
whole schema can be declared, its declarations are filtered by their names; so a filter brings no
failure of its own. Only the set of the filters matters. -/
theorem NameFilter.declarations_applyAll (options : Options) (registry : Registry)
    (schema : Schema) (filters : List NameFilter) :
    schema.declarations options registry = gather Prod.snd (schema.outcomes options registry) ∧
    (∀ declarations,
      (applyAll filters schema).declarations options registry = .ok declarations ↔
        ((schema.outcomes options registry).filter fun outcome =>
          filters.all fun filter => filter.keeps outcome.1).map Prod.snd =
            declarations.map .ok) ∧
    (∀ failure,
      (applyAll filters schema).declarations options registry = .error failure ↔
        ∃ before name behind,
          ((schema.outcomes options registry).filter fun outcome =>
            filters.all fun filter => filter.keeps outcome.1) =
              before ++ (name, .error failure) :: behind ∧
          ∀ earlier ∈ before, ∃ declaration, earlier.2 = .ok declaration) ∧
    (∀ declarations, schema.declarations options registry = .ok declarations →
      (applyAll filters schema).declarations options registry =
        .ok (declarations.filter fun declaration =>
          filters.all fun filter => filter.keeps declaration.name)) ∧
    ∀ others : List NameFilter, (∀ filter, filter ∈ others ↔ filter ∈ filters) →
      applyAll others schema = applyAll filters schema := by
  have selected : (applyAll filters schema).declarations options registry =
      gather Prod.snd ((schema.outcomes options registry).filter fun outcome =>
        keepsAll filters outcome.1) := by
    rw [applyAll_eq_restrict, Schema.declarations_restrict]
  refine ⟨schema.declarations_eq_gather_outcomes options registry, ?_, ?_, ?_, ?_⟩
  · intro declarations
    rw [selected]
    exact gather_eq_ok_iff ..
  · intro failure
    rw [selected, gather_eq_error_iff]
    constructor
    · rintro ⟨before, ⟨name, result⟩, behind, split, succeeding, rfl⟩
      exact ⟨before, name, behind, split, succeeding⟩
    · rintro ⟨before, name, behind, split, succeeding⟩
      exact ⟨before, (name, .error failure), behind, split, succeeding, rfl⟩
  · intro declarations built
    rw [applyAll_eq_restrict]
    exact Schema.declarations_restrict_of_eq_ok built _
  · intro others same
    rw [applyAll_eq_restrict, applyAll_eq_restrict, keepsAll_congr same]

end ZodValidators
