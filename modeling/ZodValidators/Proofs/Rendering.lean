import ZodValidators.Proofs.FieldCompilation

/-!
# The text of usable fields

What stands for a candidate is one of three forms. The text of a usable field puts the forms of its
candidates together, and the text of an object puts one line for each field between its ends.
-/

set_option autoImplicit false

namespace ZodValidators

/-! ## Candidates -/

/-- What stands for a candidate, before its modifiers. -/
inductive Rendering where
  | construction (zodType : Text)
  | lazyReference (name : Text)
  | directReference (name : Text)
deriving DecidableEq, Repr

/-- The text of a form. Only a constructor takes the custom text of the field. -/
def Rendering.text (field : Field) : Rendering → Text
  | .construction zodType =>
    "z." ++ zodType ++ "(" ++ field.customErrors.inserted ++ ")" ++ field.validator.inserted
  | .lazyReference name => "z.lazy(() => " ++ name ++ ")"
  | .directReference name => name

/-- What stands for a known candidate other than null. -/
def TypeRef.rendering (registry : Registry) (deferred : Bool) (candidate : TypeRef) : Rendering :=
  match candidate.kind registry with
  | .reference name => if deferred then .lazyReference name else .directReference name
  | .scalar zodType | .null zodType => .construction zodType

theorem TypeRef.rendering_of_isReferencePlace {registry : Registry} {deferred : Bool}
    {candidate : TypeRef} (place : TypeKind.isReferencePlace candidate.location = true) :
    candidate.rendering registry deferred =
      if deferred then .lazyReference candidate.name else .directReference candidate.name := by
  rw [rendering, kind, if_pos place]

theorem TypeRef.rendering_of_not_isReferencePlace {registry : Registry} {deferred : Bool}
    {candidate : TypeRef} (place : ¬ TypeKind.isReferencePlace candidate.location = true) :
    candidate.rendering registry deferred =
      .construction ((registry.zodType? candidate.name).getD []) := by
  rw [rendering, kind, if_neg place]

def Field.candidateText (registry : Registry) (deferred isOptional isNullable : Bool)
    (field : Field) (candidate : TypeRef) : Text :=
  (candidate.rendering registry deferred).text field ++
    Expression.modifiers candidate.isList isOptional isNullable ++ ","

theorem Expression.candidate_kind (registry : Registry)
    (deferred isOptional isNullable : Bool) (field : Field) (candidate : TypeRef) :
    Expression.candidate (candidate.kind registry) candidate.isList field deferred isOptional
        isNullable =
      field.candidateText registry deferred isOptional isNullable candidate := by
  rw [Field.candidateText, TypeRef.rendering, TypeRef.kind]
  by_cases place : TypeKind.isReferencePlace candidate.location = true
  · cases deferred <;> simp [place, Expression.candidate, Expression.reference, Rendering.text]
  · simp [place, Expression.candidate, Expression.scalar, Rendering.text]

/-! ## Fields -/

/-- The text of a usable field: its only candidate with all modifiers, or a union of candidates
whose branches have no modifier but that of lists. -/
def Field.expression (registry : Registry) (deferred : Bool) (field : Field) : Text :=
  match field.nonNullCandidates with
  | [candidate] =>
    field.candidateText registry deferred field.optional field.nullable candidate
  | candidates =>
    Expression.union (candidates.map (field.candidateText registry deferred false false))
      (!field.required) field.nullable

theorem Field.compile_of_isUsable {registry : Registry} {field : Field}
    (usable : field.IsUsable registry) (deferred : Bool) (owner : Option Text) :
    field.compile registry deferred owner = .ok (field.expression registry deferred) := by
  rw [compile, if_neg usable.1, gather_withKind_of_isUsable usable, expression]
  cases candidates : field.nonNullCandidates with
  | nil => exact absurd candidates usable.1
  | cons first rest =>
      cases rest with
      | nil => simp [Expression.candidate_kind]
      | cons second others => simp [Expression.candidate_kind, Function.comp_def]

def Field.text (registry : Registry) (deferred : Bool) (field : Field) : Text :=
  "  " ++ field.name ++ ": " ++ field.expression registry deferred

theorem Field.line_of_isUsable {registry : Registry} {field : Field}
    (usable : field.IsUsable registry) (deferred : Bool) (owner : Text) :
    field.line registry deferred owner = .ok (field.text registry deferred) := by
  rw [line, compile_of_isUsable usable]
  rfl

/-! ## Objects -/

def objectText : List Text → Text
  | [] => objectOpening ++ objectClosing
  | lines => Text.join "\n" ([objectOpening] ++ lines ++ [objectClosing])

/-- An object has one line for each of its fields, also when there is none. -/
theorem objectBody_eq_map (registry : Registry) (deferred : Bool) (owner : Text)
    (fields : List Field) :
    objectBody registry deferred owner fields =
      (gather (Field.line registry deferred owner) fields).map objectText := by
  cases fields with
  | nil => rfl
  | cons field rest =>
      cases gathered : gather (Field.line registry deferred owner) (field :: rest) with
      | error failure => simp [objectBody, gathered, bind, Except.bind, Except.map]
      | ok lines =>
          cases lines with
          | nil =>
              have same := (gather_eq_ok_iff ..).mp gathered
              simp at same
          | cons first others =>
              simp [objectBody, gathered, bind, Except.bind, Except.map, pure, Except.pure,
                objectText]

theorem failureOf?_objectBody (registry : Registry) (deferred : Bool) (owner : Text)
    (fields : List Field) :
    failureOf? (objectBody registry deferred owner fields) =
      fields.findSome? fun field => field.failure? registry [] (some owner) := by
  rw [objectBody_eq_map, failureOf?_map, failureOf?_gather]
  congr 1
  funext field
  rw [Field.line, failureOf?_map, Field.failureOf?_compile]

theorem objectBody_eq_ok_iff {registry : Registry} {deferred : Bool} {owner body : Text}
    {fields : List Field} :
    objectBody registry deferred owner fields = .ok body ↔
      (∀ field ∈ fields, field.IsUsable registry) ∧
        body = objectText (fields.map (Field.text registry deferred)) := by
  have usable_iff : (∃ value, objectBody registry deferred owner fields = .ok value) ↔
      ∀ field ∈ fields, field.IsUsable registry := by
    rw [← failureOf?_eq_none_iff, failureOf?_objectBody, List.findSome?_eq_none_iff]
    simp only [Field.failure?_eq_none_iff]
  have built (usable : ∀ field ∈ fields, field.IsUsable registry) :
      objectBody registry deferred owner fields =
        .ok (objectText (fields.map (Field.text registry deferred))) := by
    rw [objectBody_eq_map, gather_congr fun field member =>
      Field.line_of_isUsable (usable field member) deferred owner, gather_total]
    rfl
  constructor
  · intro succeeded
    have usable := usable_iff.mp ⟨body, succeeded⟩
    exact ⟨usable, Except.ok.inj (succeeded.symm.trans (built usable))⟩
  · rintro ⟨usable, rfl⟩
    exact built usable

end ZodValidators
