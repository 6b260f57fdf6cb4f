import ZodValidators.Declaration

/-!
# What a field compiles to

`Field.compile` is described without its traversal of the candidates: which fields it accepts, the
text of an accepted field, and the failure of any other field. Acceptance depends on the registry
and the candidates alone; neither the owner nor laziness decides it.
-/

set_option autoImplicit false

namespace ZodValidators

/-! ## Known candidates -/

/-- The candidate refers to an enum or an input type, or is a scalar with a zod constructor that is
not empty. Nothing is said about the declaration that a reference needs. -/
def TypeRef.IsKnown (registry : Registry) (candidate : TypeRef) : Prop :=
  candidate.location = Location.inputObject ∨ candidate.location = Location.enumeration ∨
    (candidate.location = Location.scalar ∧
      ∃ zodType ∈ registry.zodType? candidate.name, zodType ≠ [])

instance (registry : Registry) (candidate : TypeRef) : Decidable (candidate.IsKnown registry) :=
  inferInstanceAs (Decidable (_ ∨ _ ∨ _))

/-- The category of a known candidate other than null. -/
def TypeRef.kind (registry : Registry) (candidate : TypeRef) : TypeKind :=
  if TypeKind.isReferencePlace candidate.location then .reference candidate.name
  else .scalar ((registry.zodType? candidate.name).getD [])

def TypeRef.unrecognized (candidate : TypeRef) : UnrecognizedType where
  typeName := candidate.name
  location := candidate.location

theorem TypeRef.isKnown_of_isReferencePlace {registry : Registry} {candidate : TypeRef}
    (place : TypeKind.isReferencePlace candidate.location = true) :
    candidate.IsKnown registry := by
  simp only [TypeKind.isReferencePlace, Bool.or_eq_true, decide_eq_true_eq] at place
  rcases place with input | enumeration
  · exact .inl input
  · exact .inr (.inl enumeration)

theorem TypeRef.isKnown_iff_of_not_isReferencePlace {registry : Registry} {candidate : TypeRef}
    (place : ¬ TypeKind.isReferencePlace candidate.location = true) :
    candidate.IsKnown registry ↔
      candidate.location = Location.scalar ∧
        ∃ zodType ∈ registry.zodType? candidate.name, zodType ≠ [] := by
  simp only [TypeKind.isReferencePlace, Bool.or_eq_true, decide_eq_true_eq, not_or] at place
  simp only [TypeRef.IsKnown, place.1, place.2, false_or]

theorem TypeKind.classify_of_not_isNull {registry : Registry} {candidate : TypeRef}
    (notNull : candidate.isNull = false) :
    TypeKind.classify registry candidate =
      if candidate.IsKnown registry then .ok (candidate.kind registry)
      else .error candidate.unrecognized := by
  simp only [TypeKind.classify, notNull, Bool.false_eq_true, if_false, TypeRef.kind]
  by_cases place : TypeKind.isReferencePlace candidate.location = true
  · simp only [place, if_true, TypeRef.isKnown_of_isReferencePlace place]
  · simp only [place, TypeRef.isKnown_iff_of_not_isReferencePlace place]
    by_cases scalar : candidate.location = Location.scalar
    · cases registered : registry.zodType? candidate.name with
      | none => simp [TypeRef.unrecognized]
      | some zodType =>
          by_cases blank : zodType = [] <;> simp [blank, scalar, TypeRef.unrecognized]
    · simp [scalar, TypeRef.unrecognized]

/-! ## Usable fields -/

/-- The field has a candidate other than null, and all of these are known. -/
def Field.IsUsable (registry : Registry) (field : Field) : Prop :=
  field.nonNullCandidates ≠ [] ∧
    ∀ candidate ∈ field.nonNullCandidates, candidate.IsKnown registry

instance (registry : Registry) (field : Field) : Decidable (field.IsUsable registry) :=
  inferInstanceAs (Decidable (_ ∧ _))

theorem Field.isNull_of_mem_nonNullCandidates {field : Field} {candidate : TypeRef}
    (member : candidate ∈ field.nonNullCandidates) : candidate.isNull = false := by
  simpa using (List.mem_filter.mp member).2

/-! ## The failure of a field -/

def Field.unrecognized (declaredScalars : List Text) (owner : Option Text) (field : Field)
    (candidate : TypeRef) : UnrecognizedType where
  typeName := candidate.name
  location := candidate.location
  owner := owner
  field := some field.name
  declared := candidate.location = Location.scalar && candidate.name ∈ declaredScalars

def Field.failure? (registry : Registry) (declaredScalars : List Text) (owner : Option Text)
    (field : Field) : Option FieldFailure :=
  if field.nonNullCandidates = [] then some (.missingCandidates owner field.name)
  else
    (field.nonNullCandidates.find? fun candidate => !decide (candidate.IsKnown registry)).map
      fun candidate => .unrecognized (field.unrecognized declaredScalars owner candidate)

/-- How a field fails: it has no candidate other than null, or one of these is unknown behind
others that are all known. -/
inductive Field.FailsAs (registry : Registry) (declaredScalars : List Text) (owner : Option Text)
    (field : Field) : FieldFailure → Prop where
  | missing : field.nonNullCandidates = [] →
      FailsAs registry declaredScalars owner field (.missingCandidates owner field.name)
  | unrecognized {before behind : List TypeRef} {candidate : TypeRef} :
      field.nonNullCandidates = before ++ candidate :: behind →
      (∀ earlier ∈ before, earlier.IsKnown registry) → ¬ candidate.IsKnown registry →
      FailsAs registry declaredScalars owner field
        (.unrecognized (field.unrecognized declaredScalars owner candidate))

theorem Field.failure?_eq_none_iff {registry : Registry} {declaredScalars : List Text}
    {owner : Option Text} {field : Field} :
    field.failure? registry declaredScalars owner = none ↔ field.IsUsable registry := by
  by_cases empty : field.nonNullCandidates = [] <;>
    simp [Field.failure?, Field.IsUsable, empty]

theorem Field.failure?_eq_some_iff {registry : Registry} {declaredScalars : List Text}
    {owner : Option Text} {field : Field} {failure : FieldFailure} :
    field.failure? registry declaredScalars owner = some failure ↔
      field.FailsAs registry declaredScalars owner failure := by
  constructor
  · intro failing
    by_cases empty : field.nonNullCandidates = []
    · simp only [Field.failure?, empty, if_true, Option.some.injEq] at failing
      subst failure
      exact .missing empty
    · simp only [Field.failure?, empty, if_false, Option.map_eq_some_iff] at failing
      obtain ⟨candidate, found, rfl⟩ := failing
      obtain ⟨unknown, before, behind, split, known⟩ := List.find?_eq_some_iff_append.mp found
      exact .unrecognized split (by simpa using known) (by simpa using unknown)
  · intro fails
    cases fails with
    | missing empty => simp [Field.failure?, empty]
    | @unrecognized before behind candidate split known unknown =>
        have found : (field.nonNullCandidates.find? fun candidate =>
            !decide (candidate.IsKnown registry)) = some candidate :=
          List.find?_eq_some_iff_append.mpr
            ⟨by simpa using unknown, before, behind, split, by simpa using known⟩
        have filled : field.nonNullCandidates ≠ [] := by simp [split]
        simp [Field.failure?, filled, found]

/-! ## Compiling -/

private theorem gather_withKind {registry : Registry} {candidates : List TypeRef}
    (notNull : ∀ candidate ∈ candidates, candidate.isNull = false) :
    gather (withKind registry) candidates =
      gather (fun candidate =>
        if candidate.IsKnown registry then .ok (candidate.kind registry, candidate)
        else .error candidate.unrecognized) candidates := by
  apply gather_congr
  intro candidate member
  rw [withKind, TypeKind.classify_of_not_isNull (notNull candidate member)]
  split <;> rfl

theorem gather_withKind_of_isUsable {registry : Registry} {field : Field}
    (usable : field.IsUsable registry) :
    gather (withKind registry) field.nonNullCandidates =
      .ok (field.nonNullCandidates.map fun candidate => (candidate.kind registry, candidate)) := by
  rw [gather_withKind fun _ => Field.isNull_of_mem_nonNullCandidates, ← gather_total]
  apply gather_congr
  intro candidate member
  rw [if_pos (usable.2 candidate member)]

theorem failureOf?_gather_withKind (registry : Registry) (field : Field) :
    failureOf? (gather (withKind registry) field.nonNullCandidates) =
      (field.nonNullCandidates.find? fun candidate => !decide (candidate.IsKnown registry)).map
        TypeRef.unrecognized := by
  rw [gather_withKind fun _ => Field.isNull_of_mem_nonNullCandidates, failureOf?_gather,
    List.find?_eq_findSome?_guard, List.map_findSome?]
  congr 1
  funext candidate
  by_cases known : candidate.IsKnown registry <;> simp [known, Option.guard]

/-- A field is compiled unless it fails, and it fails before any scalar is known to be declared. -/
theorem Field.failureOf?_compile (registry : Registry) (deferred : Bool) (owner : Option Text)
    (field : Field) :
    failureOf? (field.compile registry deferred owner) =
      field.failure? registry [] owner := by
  by_cases empty : field.nonNullCandidates = []
  · simp [Field.compile, Field.failure?, empty]
  · have searched := failureOf?_gather_withKind registry field
    simp only [Field.compile, Field.failure?, empty, if_false]
    cases gathered : gather (withKind registry) field.nonNullCandidates with
    | error unrecognized =>
        rw [gathered, failureOf?_error] at searched
        obtain ⟨candidate, found, rfl⟩ := Option.map_eq_some_iff.mp searched.symm
        simp [found, TypeRef.unrecognized, Field.unrecognized, UnrecognizedType.withContext]
    | ok branches =>
        rw [gathered, failureOf?_ok] at searched
        rw [Option.map_eq_none_iff.mp searched.symm]
        split <;> simp_all

theorem Field.map_markDeclared_failure? (registry : Registry) (declaredScalars : List Text)
    (owner : Option Text) (field : Field) :
    (field.failure? registry [] owner).map (FieldFailure.markDeclared declaredScalars) =
      field.failure? registry declaredScalars owner := by
  by_cases empty : field.nonNullCandidates = []
  · simp [Field.failure?, empty, FieldFailure.markDeclared]
  · simp only [Field.failure?, empty, if_false, Option.map_map]
    congr 1
    funext candidate
    by_cases scalar : candidate.location = Location.scalar <;>
      by_cases declared : candidate.name ∈ declaredScalars <;>
        simp [FieldFailure.markDeclared, Field.unrecognized, UnrecognizedType.asDeclared, scalar,
          declared]

end ZodValidators
