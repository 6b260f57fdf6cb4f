import ZodValidators.Expression

/-!
# Unions and their branches

A field with several candidates other than null compiles to a union of what each candidate compiles
to alone, and it fails as the first of them does. Markers of null do not show, wherever they stand.
-/

set_option autoImplicit false

namespace ZodValidators

/-- The candidate as the only one of a required field that has no modifier of its own. The name and
the custom text are those of the field. -/
def Field.alone (field : Field) (candidate : TypeRef) : Field where
  name := field.name
  candidates := [candidate]
  required := true
  nullable := false
  optional := false
  validator := field.validator
  customErrors := field.customErrors

/-- The lists differ only in markers of null, which may stand anywhere in either. -/
inductive SameButNulls : List TypeRef → List TypeRef → Prop where
  | nil : SameButNulls [] []
  | cons {candidate : TypeRef} {candidates others : List TypeRef} :
      SameButNulls candidates others → SameButNulls (candidate :: candidates) (candidate :: others)
  | removed {marker : TypeRef} {candidates others : List TypeRef} :
      marker.isNull = true → SameButNulls candidates others →
      SameButNulls (marker :: candidates) others
  | inserted {marker : TypeRef} {candidates others : List TypeRef} :
      marker.isNull = true → SameButNulls candidates others →
      SameButNulls candidates (marker :: others)

theorem SameButNulls.filter_eq {candidates others : List TypeRef}
    (same : SameButNulls candidates others) :
    candidates.filter (fun candidate => !candidate.isNull) =
      others.filter fun candidate => !candidate.isNull := by
  induction same with
  | nil => rfl
  | cons _ ih => rw [List.filter_cons, List.filter_cons, ih]
  | removed marker _ ih => rw [List.filter_cons_of_neg (by simp [marker]), ih]
  | inserted marker _ ih => rw [List.filter_cons_of_neg (by simp [marker]), ih]

/-! ## Candidates alone -/

/-- Only the custom text of its field shows in a candidate. -/
theorem Expression.candidate_congr {field other : Field}
    (validator : field.validator = other.validator)
    (customErrors : field.customErrors = other.customErrors)
    (kind : TypeKind) (isList deferred isOptional isNullable : Bool) :
    candidate kind isList field deferred isOptional isNullable =
      candidate kind isList other deferred isOptional isNullable := by
  cases kind with
  | scalar zodType => rw [candidate, candidate, validator, customErrors]
  | reference name => rfl
  | null zodType => rfl

namespace Field

theorem nonNullCandidates_alone (field : Field) {candidate : TypeRef}
    (notNull : candidate.isNull = false) :
    (field.alone candidate).nonNullCandidates = [candidate] := by
  rw [nonNullCandidates, alone]
  exact List.filter_cons_of_pos (by simpa using notNull)

/-- A failure to find the category of a candidate, as the field reports it. -/
def reported (field : Field) (owner : Option Text) (unrecognized : UnrecognizedType) :
    FieldFailure :=
  .unrecognized (unrecognized.withContext owner (some field.name))

/-- A candidate of a known category as a branch of a union. -/
def branch (field : Field) (deferred : Bool) (known : TypeKind × TypeRef) : Text :=
  Expression.candidate known.1 known.2.isList field deferred false false

theorem compile_alone (field : Field) (registry : Registry) (deferred : Bool)
    (owner : Option Text) {candidate : TypeRef} (notNull : candidate.isNull = false) :
    (field.alone candidate).compile registry deferred owner =
      ((withKind registry candidate).mapError (field.reported owner)).map
        (field.branch deferred) := by
  rw [compile, nonNullCandidates_alone field notNull, if_neg (List.cons_ne_nil _ _), gather]
  cases classified : withKind registry candidate with
  | error unrecognized => rfl
  | ok known =>
      exact congrArg Except.ok (Expression.candidate_congr rfl rfl known.1 known.2.isList ..)

/-! ## Unions -/

/-- The modifiers stand behind the brackets, and nowhere inside. -/
theorem union_eq (field : Field) (texts : List Text) :
    Expression.union texts (!field.required) field.nullable =
      "z.union([ " ++ texts.flatten ++ " ])" ++
        (if field.required then "" else ".optional()" : String) ++
        (if field.nullable then ".nullable()" else "" : String) ++ "," := by
  have modifiers : (Expression.modifiers false (!field.required) field.nullable : Text) =
      (if field.required then "" else ".optional()" : String) ++
        ((if field.nullable then ".nullable()" else "" : String) : Text) := by
    cases field.required <;> cases field.nullable <;> rfl
  rw [Expression.union, modifiers]
  simp only [List.append_assoc]

theorem compile_of_two_le {field : Field} (several : 2 ≤ field.nonNullCandidates.length)
    (registry : Registry) (deferred : Bool) (owner : Option Text) :
    field.compile registry deferred owner =
      (gather (fun candidate => (field.alone candidate).compile registry deferred owner)
        field.nonNullCandidates).map
          fun texts => Expression.union texts (!field.required) field.nullable := by
  have branches :
      gather (fun candidate => (field.alone candidate).compile registry deferred owner)
          field.nonNullCandidates =
        ((gather (withKind registry) field.nonNullCandidates).mapError
          (field.reported owner)).map (List.map (field.branch deferred)) := by
    rw [← gather_mapError_map]
    apply gather_congr
    intro candidate member
    exact compile_alone field registry deferred owner (by simpa using (List.mem_filter.mp member).2)
  have filled : field.nonNullCandidates ≠ [] := by
    intro empty
    simp [empty] at several
  rw [branches, compile, if_neg filled]
  cases gathered : gather (withKind registry) field.nonNullCandidates with
  | error unrecognized => rfl
  | ok known =>
      have counted : known.length = field.nonNullCandidates.length := by
        have mapped := congrArg List.length ((gather_eq_ok_iff ..).mp gathered)
        rw [List.length_map, List.length_map] at mapped
        exact mapped.symm
      cases known with
      | nil => simp [counted.symm] at several
      | cons first rest =>
          cases rest with
          | nil => simp [counted.symm] at several
          | cons second others => rfl

/-! ## Markers of null -/

theorem compile_of_sameButNulls {field : Field} {candidates : List TypeRef}
    (same : SameButNulls field.candidates candidates) (registry : Registry) (deferred : Bool)
    (owner : Option Text) :
    ({ field with candidates } : Field).compile registry deferred owner =
      field.compile registry deferred owner := by
  have shown : ({ field with candidates } : Field).nonNullCandidates = field.nonNullCandidates :=
    same.filter_eq.symm
  have text (kind : TypeKind) (isList isOptional isNullable : Bool) :
      Expression.candidate kind isList { field with candidates } deferred isOptional isNullable =
        Expression.candidate kind isList field deferred isOptional isNullable :=
    Expression.candidate_congr rfl rfl kind isList deferred isOptional isNullable
  simp only [compile, shown, text]

/-- A union is compiled branch by branch, and no field shows its markers of null. -/
theorem compile_branches (field : Field) (registry : Registry) (deferred : Bool)
    (owner : Option Text) :
    (2 ≤ field.nonNullCandidates.length →
      (∀ text, field.compile registry deferred owner = .ok text ↔
        ∃ texts : List Text,
          field.nonNullCandidates.map (fun candidate =>
            (field.alone candidate).compile registry deferred owner) = texts.map .ok ∧
          text = "z.union([ " ++ texts.flatten ++ " ])" ++
            (if field.required then "" else ".optional()" : String) ++
            (if field.nullable then ".nullable()" else "" : String) ++ ",") ∧
      (∀ failure, field.compile registry deferred owner = .error failure ↔
        ∃ before candidate behind,
          field.nonNullCandidates = before ++ candidate :: behind ∧
          (∀ earlier ∈ before, ∃ text,
            (field.alone earlier).compile registry deferred owner = .ok text) ∧
          (field.alone candidate).compile registry deferred owner = .error failure)) ∧
    ∀ candidates, SameButNulls field.candidates candidates →
      ({ field with candidates } : Field).compile registry deferred owner =
        field.compile registry deferred owner := by
  refine ⟨fun several => ⟨?_, ?_⟩, fun candidates same =>
    compile_of_sameButNulls same registry deferred owner⟩
  · intro text
    rw [compile_of_two_le several, map_eq_ok_iff]
    simp only [gather_eq_ok_iff, union_eq]
  · intro failure
    rw [compile_of_two_le several, map_eq_error_iff]
    exact gather_eq_error_iff ..

def whereField : Field where
  name := "where"
  candidates := [{ name := "Int" }, { name := "Null" },
    { name := "StringFilter", location := Location.inputObject }]
  required := false
  nullable := true

theorem sameButNulls_whereField :
    SameButNulls whereField.candidates [{ name := "Null", isList := true }, { name := "Int" },
      { name := "StringFilter", location := Location.inputObject }] :=
  .inserted rfl (.cons (.removed rfl (.cons .nil)))

theorem compile_branches_whereField :
    2 ≤ whereField.nonNullCandidates.length ∧
    whereField.compile Registry.default true (some "UserInput") =
      .ok "z.union([ z.number(),z.lazy(() => StringFilter), ]).optional().nullable()," ∧
    ({ whereField with
        candidates := [{ name := "Null", isList := true }, { name := "Int" },
          { name := "StringFilter", location := Location.inputObject }] } : Field).compile
        Registry.default true (some "UserInput") =
      whereField.compile Registry.default true (some "UserInput") := by
  have several : 2 ≤ whereField.nonNullCandidates.length := by decide
  have described := whereField.compile_branches Registry.default true (some "UserInput")
  have alone : whereField.nonNullCandidates.map (fun candidate =>
      (whereField.alone candidate).compile Registry.default true (some "UserInput")) =
        ([("z.number()," : Text), "z.lazy(() => StringFilter),"]).map .ok := by
    rfl
  refine ⟨several, ((described.1 several).1 _).mpr ⟨_, alone, ?_⟩,
    described.2 _ sameButNulls_whereField⟩
  decide +kernel

end Field

end ZodValidators
