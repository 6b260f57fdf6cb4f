import ZodValidators.Proofs.Traversal

/-!
# Where a traversal fails

A schema that cannot be declared fails at one position: at a candidate of a field of a declaration.
All that comes before the position is fine, so the position moves later whenever more candidates are
known, and never earlier.
-/

set_option autoImplicit false

namespace ZodValidators

/-! ## The first item that fails -/

/-- The item at this index fails and no earlier item does. -/
def IsFirst {α : Type} (fails : α → Prop) (items : List α) (index : Nat) (item : α) : Prop :=
  items[index]? = some item ∧ fails item ∧
    ∀ earlier < index, ∀ other, items[earlier]? = some other → ¬ fails other

theorem exists_isFirst_iff {α : Type} {fails : α → Prop} {items : List α} {item : α} :
    (∃ index, IsFirst fails items index item) ↔
      ∃ before behind, items = before ++ item :: behind ∧
        (∀ earlier ∈ before, ¬ fails earlier) ∧ fails item := by
  constructor
  · rintro ⟨index, found, failing, first⟩
    obtain ⟨bound, same⟩ := List.getElem?_eq_some_iff.mp found
    refine ⟨items.take index, items.drop (index + 1), ?_, ?_, failing⟩
    · rw [← same, ← List.drop_eq_getElem_cons bound, List.take_append_drop]
    · intro other member
      obtain ⟨earlier, inside, rfl⟩ := List.mem_take_iff_getElem.mp member
      exact first earlier (by omega) _ (List.getElem?_eq_getElem _)
  · rintro ⟨before, behind, rfl, passing, failing⟩
    refine ⟨before.length, by simp, failing, ?_⟩
    intro earlier inside other found
    rw [List.getElem?_append_left inside] at found
    exact passing other (List.mem_of_getElem? found)

/-- When fewer items fail, the first that does stands later or is the same one. -/
theorem IsFirst.lt_or_eq {α : Type} {fails stillFails : α → Prop} {items : List α}
    {index later : Nat} {item other : α} (first : IsFirst fails items index item)
    (further : IsFirst stillFails items later other)
    (fewer : ∀ one, stillFails one → fails one) :
    index < later ∨ index = later ∧ item = other := by
  rcases Nat.lt_trichotomy index later with before | rfl | behind
  · exact .inl before
  · exact .inr ⟨rfl, Option.some.inj (first.1.symm.trans further.1)⟩
  · exact absurd (fewer other further.2.1) (first.2.2 later behind other further.1)

/-! ## Positions -/

/-- A position of a traversal: a declaration, a field of it and a candidate of the field other than
null, each by its number. -/
structure Position where
  declaration : Nat
  field : Nat
  candidate : Nat
deriving DecidableEq, Repr

/-- The traversal comes by the first position before it comes by the second one. -/
def Position.Before (position later : Position) : Prop :=
  position.declaration < later.declaration ∨
    position.declaration = later.declaration ∧
      (position.field < later.field ∨
        position.field = later.field ∧ position.candidate < later.candidate)

/-- The failure of a field and the candidate that it is found at. A field without candidates fails
before its first one. -/
inductive Field.FailsAt (registry : Registry) (declaredScalars : List Text) (owner : Option Text)
    (field : Field) : Nat → FieldFailure → Prop where
  | missing : field.nonNullCandidates = [] →
      FailsAt registry declaredScalars owner field 0 (.missingCandidates owner field.name)
  | unrecognized {index : Nat} {candidate : TypeRef} :
      IsFirst (fun candidate => ¬ candidate.IsKnown registry) field.nonNullCandidates index
        candidate →
      FailsAt registry declaredScalars owner field index
        (.unrecognized (field.unrecognized declaredScalars owner candidate))

/-- The failure of a schema and the position that it is found at: all fields of earlier declarations
and all earlier fields of the same declaration are usable. -/
inductive Schema.FailsAt (registry : Registry) (schema : Schema) :
    Position → FieldFailure → Prop where
  | found {declaration index candidate : Nat} {subject : Subject} {field : Field}
      {failure : FieldFailure} :
      IsFirst (fun subject => ¬ ∀ field ∈ subject.fields, field.IsUsable registry) schema.subjects
        declaration subject →
      IsFirst (fun field => ¬ field.IsUsable registry) subject.fields index field →
      field.FailsAt registry schema.scalars (some subject.name) candidate failure →
      FailsAt registry schema ⟨declaration, index, candidate⟩ failure

theorem Field.exists_failsAt_iff {registry : Registry} {declaredScalars : List Text}
    {owner : Option Text} {field : Field} {failure : FieldFailure} :
    (∃ index, field.FailsAt registry declaredScalars owner index failure) ↔
      field.FailsAs registry declaredScalars owner failure := by
  constructor
  · rintro ⟨index, fails⟩
    cases fails with
    | missing empty => exact .missing empty
    | unrecognized first =>
        obtain ⟨before, behind, split, known, unknown⟩ := exists_isFirst_iff.mp ⟨index, first⟩
        exact .unrecognized split (fun earlier member => not_not.mp (known earlier member)) unknown
  · intro fails
    cases fails with
    | missing empty => exact ⟨0, .missing empty⟩
    | @unrecognized before behind candidate split known unknown =>
        have exists_first : ∃ index, IsFirst (fun candidate => ¬ candidate.IsKnown registry)
            field.nonNullCandidates index candidate :=
          exists_isFirst_iff.mpr ⟨before, behind, split,
            fun earlier member => not_not.mpr (known earlier member), unknown⟩
        obtain ⟨index, first⟩ := exists_first
        exact ⟨index, .unrecognized first⟩

theorem Field.FailsAt.not_isUsable {registry : Registry} {declaredScalars : List Text}
    {owner : Option Text} {field : Field} {index : Nat} {failure : FieldFailure}
    (fails : field.FailsAt registry declaredScalars owner index failure) :
    ¬ field.IsUsable registry := by
  rintro ⟨filled, known⟩
  cases fails with
  | missing empty => exact filled empty
  | unrecognized first => exact first.2.1 (known _ (List.mem_of_getElem? first.1))

theorem Subject.exists_declaration_iff {context : BuildContext} {subject : Subject} :
    (∃ declaration, subject.declaration context = .ok declaration) ↔
      ∀ field ∈ subject.fields, field.IsUsable context.registry := by
  rw [← failureOf?_eq_none_iff, Subject.failureOf?_declaration, List.findSome?_eq_none_iff]
  simp only [Field.failure?_eq_none_iff]

theorem Subject.declaration_eq_error_iff {context : BuildContext} {subject : Subject}
    {failure : FieldFailure} :
    subject.declaration context = .error failure ↔
      ∃ before field behind, subject.fields = before ++ field :: behind ∧
        (∀ earlier ∈ before, earlier.IsUsable context.registry) ∧
        field.FailsAs context.registry context.declaredScalars (some subject.name) failure := by
  rw [← failureOf?_eq_some_iff, Subject.failureOf?_declaration, List.findSome?_eq_some_iff]
  simp only [Field.failure?_eq_none_iff, Field.failure?_eq_some_iff]
  constructor
  · rintro ⟨before, field, behind, split, fails, usable⟩
    exact ⟨before, field, behind, split, usable, fails⟩
  · rintro ⟨before, field, behind, split, usable, fails⟩
    exact ⟨before, field, behind, split, fails, usable⟩

/-- The failure of the declarations is the one that is found at a position. -/
theorem Schema.declarations_eq_error_iff_failsAt {options : Options} {registry : Registry}
    {schema : Schema} {failure : FieldFailure} :
    schema.declarations options registry = .error failure ↔
      ∃ position, schema.FailsAt registry position failure := by
  rw [declarations_eq_gather, gather_eq_error_iff]
  simp only [Subject.exists_declaration_iff, Subject.declaration_eq_error_iff]
  constructor
  · rintro ⟨before, subject, behind, split, passing, fields, field, others, parts, usable, fails⟩
    obtain ⟨candidate, failsAt⟩ := Field.exists_failsAt_iff.mpr fails
    have broken : ¬ ∀ field ∈ subject.fields, field.IsUsable registry := by
      intro all
      exact failsAt.not_isUsable (all field (by simp [parts]))
    have exists_subject : ∃ declaration,
        IsFirst (fun subject => ¬ ∀ field ∈ subject.fields, field.IsUsable registry)
          schema.subjects declaration subject :=
      exists_isFirst_iff.mpr
        ⟨before, behind, split, fun earlier member => not_not.mpr (passing earlier member), broken⟩
    have exists_field : ∃ index,
        IsFirst (fun field => ¬ field.IsUsable registry) subject.fields index field :=
      exists_isFirst_iff.mpr ⟨fields, others, parts,
        fun earlier member => not_not.mpr (usable earlier member), failsAt.not_isUsable⟩
    obtain ⟨declaration, firstSubject⟩ := exists_subject
    obtain ⟨index, firstField⟩ := exists_field
    exact ⟨⟨declaration, index, candidate⟩, .found firstSubject firstField failsAt⟩
  · rintro ⟨position, @⟨_, _, _, subject, field, _, firstSubject, firstField, failsAt⟩⟩
    obtain ⟨before, behind, split, passing, _⟩ := exists_isFirst_iff.mp ⟨_, firstSubject⟩
    obtain ⟨fields, others, parts, usable, _⟩ := exists_isFirst_iff.mp ⟨_, firstField⟩
    exact ⟨before, subject, behind, split,
      fun earlier member => not_not.mp (passing earlier member), fields, field, others, parts,
      fun earlier member => not_not.mp (usable earlier member),
      Field.exists_failsAt_iff.mp ⟨_, failsAt⟩⟩

/-! ## More known candidates -/

theorem Field.IsUsable.mono {registry other : Registry} {field : Field}
    (kept : ∀ candidate : TypeRef, candidate.IsKnown registry → candidate.IsKnown other)
    (usable : field.IsUsable registry) : field.IsUsable other :=
  ⟨usable.1, fun candidate member => kept candidate (usable.2 candidate member)⟩

theorem Field.FailsAt.lt {registry other : Registry} {declaredScalars others : List Text}
    {owner otherOwner : Option Text} {field : Field} {index later : Nat}
    {unrecognized : UnrecognizedType} {failure : FieldFailure}
    (fails : field.FailsAt registry declaredScalars owner index (.unrecognized unrecognized))
    (further : field.FailsAt other others otherOwner later failure)
    (kept : ∀ candidate : TypeRef, candidate.IsKnown registry → candidate.IsKnown other)
    (gained : ∀ candidate : TypeRef, candidate.name = unrecognized.typeName →
      candidate.location = unrecognized.location → candidate.IsKnown other) : index < later := by
  cases fails with
  | unrecognized first =>
      cases further with
      | missing empty => simp [IsFirst, empty] at first
      | unrecognized laterFirst =>
          rcases first.lt_or_eq laterFirst fun candidate => mt (kept candidate) with
            sooner | ⟨_, rfl⟩
          · exact sooner
          · exact absurd (gained _ rfl rfl) laterFirst.2.1

/-- If no known candidate becomes unknown and the unrecognized one becomes known, what still fails
comes later. -/
theorem Schema.FailsAt.before {registry other : Registry} {schema : Schema}
    {position later : Position} {unrecognized : UnrecognizedType} {failure : FieldFailure}
    (fails : schema.FailsAt registry position (.unrecognized unrecognized))
    (further : schema.FailsAt other later failure)
    (kept : ∀ candidate : TypeRef, candidate.IsKnown registry → candidate.IsKnown other)
    (gained : ∀ candidate : TypeRef, candidate.name = unrecognized.typeName →
      candidate.location = unrecognized.location → candidate.IsKnown other) :
    position.Before later := by
  cases fails with
  | @found _ _ _ subject field _ firstSubject firstField failsAt =>
      cases further with
      | @found _ _ _ laterSubject laterField _ laterFirstSubject laterFirstField laterFailsAt =>
          rcases firstSubject.lt_or_eq laterFirstSubject
              fun one => mt fun usable field member => (usable field member).mono kept with
            sooner | ⟨sameDeclaration, rfl⟩
          · exact .inl sooner
          refine .inr ⟨sameDeclaration, ?_⟩
          rcases firstField.lt_or_eq laterFirstField
              fun one => mt fun usable => usable.mono kept with
            sooner | ⟨sameField, rfl⟩
          · exact .inl sooner
          exact .inr ⟨sameField, failsAt.lt laterFailsAt kept gained⟩

end ZodValidators
