import Mathlib.Data.Finset.Dedup
import Mathlib.Data.Finset.Card
import Mathlib.Logic.Function.Iterate
import ZodValidators.Proofs.FailurePosition

/-!
# Following the advice of a failure

A declared scalar without a zod constructor is reported with the advice to map it. Mapping it brings
the traversal further, whatever it is mapped to, and there are only so many declared scalars. What is
declared already does not change when more scalars are mapped.
-/

set_option autoImplicit false

namespace ZodValidators

/-! ## Runs -/

/-- The options with these scalars and their zod constructors. -/
def Options.withScalars (options : Options) (scalars : Table Text) : Options :=
  { options with scalars := scalars.entries }

/-- The declarations that a generator builds: it is given a registry, and the scalars of the options
come on top. -/
def Schema.generated (registry : Registry) (options : Options) (schema : Schema) :
    Except FieldFailure (List Declaration) :=
  schema.declarations options (registry.registerAll options.scalars)

/-- The mapped scalars after the advice of a run: with one more if the run failed at a declared
scalar, and as they were otherwise. -/
def Schema.advise (registry : Registry) (options : Options) (schema : Schema)
    (choose : Table Text → UnrecognizedType → Text) (scalars : Table Text) : Table Text :=
  match schema.generated registry (options.withScalars scalars) with
  | .error (.unrecognized unrecognized) =>
    if unrecognized.declared then
      scalars.insert unrecognized.typeName (choose scalars unrecognized)
    else scalars
  | _ => scalars

/-- A run that gives no advice: it succeeded, or failed at something else than a declared scalar. -/
def IsSettled (result : Except FieldFailure (List Declaration)) : Prop :=
  ∀ unrecognized, result = .error (.unrecognized unrecognized) → unrecognized.declared = false

/-! ## Mapped scalars -/

def Registry.Maps (registry : Registry) (name : Text) : Prop :=
  ∃ zodType ∈ registry.zodType? name, zodType ≠ []

instance (registry : Registry) (name : Text) : Decidable (registry.Maps name) :=
  inferInstanceAs (Decidable (∃ zodType ∈ registry.zodType? name, zodType ≠ []))

theorem Registry.maps_insert_iff {registry : Registry} {scalars : Table Text}
    {name zodType other : Text} (filled : zodType ≠ []) :
    (registry.registerAll (scalars.insert name zodType).entries).Maps other ↔
      other = name ∨ (registry.registerAll scalars.entries).Maps other := by
  simp only [Maps, zodType?_registerAll, Table.find?_insert]
  by_cases same : other = name <;> simp [same, filled]

theorem TypeRef.IsKnown.mono {registry other : Registry} {candidate : TypeRef}
    (known : candidate.IsKnown registry)
    (maps : registry.Maps candidate.name → other.Maps candidate.name) :
    candidate.IsKnown other := by
  rcases known with input | enumeration | ⟨scalar, mapped⟩
  · exact .inl input
  · exact .inr (.inl enumeration)
  · exact .inr (.inr ⟨scalar, maps mapped⟩)

theorem TypeRef.IsKnown.maps {registry : Registry} {candidate : TypeRef}
    (known : candidate.IsKnown registry) (scalar : candidate.location = Location.scalar) :
    registry.Maps candidate.name := by
  have place : ¬ TypeKind.isReferencePlace candidate.location = true := by
    rw [scalar]
    decide
  exact ((isKnown_iff_of_not_isReferencePlace place).mp known).2

/-- A candidate that is reported as a declared scalar is one, and has no zod constructor. -/
theorem Schema.FailsAt.of_declared {registry : Registry} {schema : Schema} {position : Position}
    {unrecognized : UnrecognizedType}
    (fails : schema.FailsAt registry position (.unrecognized unrecognized))
    (declared : unrecognized.declared = true) :
    unrecognized.location = Location.scalar ∧ unrecognized.typeName ∈ schema.scalars ∧
      ¬ registry.Maps unrecognized.typeName := by
  cases fails with
  | found _ _ failsAt =>
      cases failsAt with
      | unrecognized first =>
          simp only [Field.unrecognized, Bool.and_eq_true, decide_eq_true_eq] at declared
          exact ⟨declared.1, declared.2, fun mapped => first.2.1 (.inr (.inr ⟨declared.1, mapped⟩))⟩

/-! ## One round -/

theorem Schema.generated_eq_error_iff {registry : Registry} {options : Options}
    {scalars : Table Text} {schema : Schema} {failure : FieldFailure} :
    schema.generated registry (options.withScalars scalars) = .error failure ↔
      ∃ position, schema.FailsAt (registry.registerAll scalars.entries) position failure :=
  declarations_eq_error_iff_failsAt

/-- Mapping the reported scalar brings success or a failure at a later position. -/
theorem Schema.generated_insert {registry : Registry} {options : Options} {scalars : Table Text}
    {schema : Schema} {unrecognized : UnrecognizedType} {zodType : Text} (filled : zodType ≠ [])
    (declared : unrecognized.declared = true)
    (failed : schema.generated registry (options.withScalars scalars) =
      .error (.unrecognized unrecognized)) :
    ∃ position,
      schema.FailsAt (registry.registerAll scalars.entries) position
        (.unrecognized unrecognized) ∧
      ((∃ declarations, schema.generated registry
          (options.withScalars (scalars.insert unrecognized.typeName zodType)) =
            .ok declarations) ∨
        ∃ later failure, schema.generated registry
          (options.withScalars (scalars.insert unrecognized.typeName zodType)) =
            .error failure ∧
          schema.FailsAt
            (registry.registerAll (scalars.insert unrecognized.typeName zodType).entries) later
            failure ∧
          position.Before later) := by
  obtain ⟨position, fails⟩ := generated_eq_error_iff.mp failed
  refine ⟨position, fails, ?_⟩
  cases result : schema.generated registry
      (options.withScalars (scalars.insert unrecognized.typeName zodType)) with
  | ok declarations => exact .inl ⟨declarations, rfl⟩
  | error failure =>
      obtain ⟨later, further⟩ := generated_eq_error_iff.mp result
      refine .inr ⟨later, failure, rfl, further, fails.before further ?_ ?_⟩
      · intro candidate known
        exact known.mono fun mapped => (Registry.maps_insert_iff filled).mpr (.inr mapped)
      · intro candidate name location
        have scalar := location.trans (fails.of_declared declared).1
        exact .inr (.inr ⟨scalar, (Registry.maps_insert_iff filled).mpr (.inl name)⟩)

/-! ## All rounds -/

def Schema.unmapped (registry : Registry) (schema : Schema) : Finset Text :=
  schema.scalars.toFinset.filter fun name => ¬ registry.Maps name

theorem Schema.unmapped_insert {registry : Registry} {scalars : Table Text} {schema : Schema}
    {name zodType : Text} (filled : zodType ≠ []) :
    schema.unmapped (registry.registerAll (scalars.insert name zodType).entries) =
      (schema.unmapped (registry.registerAll scalars.entries)).erase name := by
  ext other
  simp only [unmapped, Finset.mem_filter, Finset.mem_erase, Registry.maps_insert_iff filled, not_or]
  tauto

/-- A round that gives advice leaves one declared scalar fewer to map. -/
theorem Schema.card_unmapped_advise {registry : Registry} {options : Options} {schema : Schema}
    {choose : Table Text → UnrecognizedType → Text} {scalars : Table Text}
    {unrecognized : UnrecognizedType} (filled : choose scalars unrecognized ≠ [])
    (declared : unrecognized.declared = true)
    (failed : schema.generated registry (options.withScalars scalars) =
      .error (.unrecognized unrecognized)) :
    (schema.unmapped (registry.registerAll
        (schema.advise registry options choose scalars).entries)).card + 1 =
      (schema.unmapped (registry.registerAll scalars.entries)).card := by
  obtain ⟨position, fails⟩ := generated_eq_error_iff.mp failed
  obtain ⟨_, listed, unmapped⟩ := fails.of_declared declared
  have member : unrecognized.typeName ∈
      schema.unmapped (registry.registerAll scalars.entries) :=
    Finset.mem_filter.mpr ⟨List.mem_toFinset.mpr listed, unmapped⟩
  have mapped : schema.advise registry options choose scalars =
      scalars.insert unrecognized.typeName (choose scalars unrecognized) := by
    simp only [advise, failed, declared, if_true]
  rw [mapped, unmapped_insert filled]
  exact Finset.card_erase_add_one member

/-- Following the advice ends after at most as many rounds as there are declared scalars to map. -/
theorem Schema.exists_isSettled (registry : Registry) (options : Options) (schema : Schema)
    {choose : Table Text → UnrecognizedType → Text}
    (filled : ∀ scalars unrecognized, choose scalars unrecognized ≠ []) (scalars : Table Text) :
    ∃ rounds ≤ (schema.unmapped (registry.registerAll scalars.entries)).card,
      IsSettled (schema.generated registry
        (options.withScalars ((schema.advise registry options choose)^[rounds] scalars))) := by
  -- The induction is on the number of declared scalars that are left to map.
  induction left : (schema.unmapped (registry.registerAll scalars.entries)).card
    generalizing scalars with
  | zero =>
      refine ⟨0, le_rfl, ?_⟩
      intro unrecognized failed
      by_contra declared
      have fewer := card_unmapped_advise (filled scalars unrecognized)
        (Bool.eq_true_of_not_eq_false declared) failed
      omega
  | succ count ih =>
      by_cases settled : IsSettled (schema.generated registry (options.withScalars scalars))
      · exact ⟨0, Nat.zero_le _, settled⟩
      · simp only [IsSettled, not_forall, Bool.not_eq_false] at settled
        obtain ⟨unrecognized, failed, declared⟩ := settled
        have fewer := card_unmapped_advise (filled scalars unrecognized) declared failed
        obtain ⟨rounds, bound, settled⟩ :=
          ih (schema.advise registry options choose scalars) (by omega)
        exact ⟨rounds + 1, by omega, settled⟩

/-! ## More scalars -/

theorem TypeKind.classify_congr {registry other : Registry} {candidate : TypeRef}
    (same : candidate.location = Location.scalar →
      registry.zodType? candidate.name = other.zodType? candidate.name) :
    classify registry candidate = classify other candidate := by
  simp only [classify]
  by_cases scalar : candidate.location = Location.scalar
  · rw [same scalar]
  · simp only [scalar, if_false]

theorem Field.compile_congr {registry other : Registry} {field : Field}
    (same : ∀ candidate ∈ field.nonNullCandidates,
      TypeKind.classify registry candidate = TypeKind.classify other candidate)
    (deferred : Bool) (owner : Option Text) :
    field.compile registry deferred owner = field.compile other deferred owner := by
  have kinds : gather (withKind registry) field.nonNullCandidates =
      gather (withKind other) field.nonNullCandidates := by
    apply gather_congr
    intro candidate member
    rw [withKind, withKind, same candidate member]
  rw [compile, compile, kinds]

theorem objectBody_congr {registry other : Registry} {fields : List Field}
    (same : ∀ field ∈ fields, ∀ candidate ∈ field.nonNullCandidates,
      TypeKind.classify registry candidate = TypeKind.classify other candidate)
    (deferred : Bool) (owner : Text) :
    objectBody registry deferred owner fields = objectBody other deferred owner fields := by
  rw [objectBody_eq_map, objectBody_eq_map]
  congr 1
  apply gather_congr
  intro field member
  rw [Field.line, Field.line, Field.compile_congr (same field member)]

/-- Only the categories of the candidates matter. -/
theorem Schema.declarations_congr {options : Options} {registry other : Registry} {schema : Schema}
    (same : ∀ owned ∈ schema.ownedFields, ∀ candidate ∈ owned.2.nonNullCandidates,
      TypeKind.classify registry candidate = TypeKind.classify other candidate) :
    schema.declarations options registry = schema.declarations options other := by
  rw [declarations_eq_gather, declarations_eq_gather]
  apply gather_congr
  intro subject listed
  have sameFields : ∀ field ∈ subject.fields, ∀ candidate ∈ field.nonNullCandidates,
      TypeKind.classify registry candidate = TypeKind.classify other candidate := by
    intro field member
    apply same (subject.name, field)
    rw [ownedFields_eq_flatMap_subjects]
    exact List.mem_flatMap.mpr ⟨subject, listed, List.mem_map.mpr ⟨field, member, rfl⟩⟩
  cases subject with
  | enumeration enumType => rfl
  | input inputType =>
      have sameBody := objectBody_congr sameFields true inputType.name
      simp only [Subject.fields] at sameBody
      simp only [Subject.declaration, InputType.declaration, BuildContext.objectDeclaration,
        buildContext, sameBody]
  | arguments operation =>
      have sameBody := objectBody_congr sameFields false operation.argumentsName
      simp only [Subject.fields] at sameBody
      simp only [Subject.declaration, Operation.declaration, BuildContext.objectDeclaration,
        buildContext, sameBody]

/-- Declarations that are built stay as they are when scalars are mapped that had no entry. -/
theorem Schema.generated_insertAll {registry : Registry} {options : Options} {schema : Schema}
    {scalars added : Table Text} {declarations : List Declaration}
    (unregistered : ∀ name ∈ added.keys, (registry.registerAll scalars.entries).has name = false)
    (built : schema.generated registry (options.withScalars scalars) = .ok declarations) :
    schema.generated registry (options.withScalars (scalars.insertAll added.entries)) =
      .ok declarations := by
  have usable := exists_declarations_iff.mp ⟨declarations, built⟩
  rw [← built]
  apply declarations_congr
  intro owned member candidate listed
  apply TypeKind.classify_congr
  intro scalar
  have absent : candidate.name ∉ added.keys := by
    intro present
    obtain ⟨zodType, mapped, _⟩ := ((usable owned member).2 candidate listed).maps scalar
    have missing := unregistered candidate.name present
    rw [Option.mem_def, Options.withScalars, Registry.zodType?, Option.map_eq_some_iff] at mapped
    obtain ⟨handler, found, _⟩ := mapped
    simp [Table.has, found] at missing
  simp only [Options.withScalars, Registry.zodType?_registerAll,
    Table.find?_insertAll_of_not_mem absent]

/-- Following the advice of a failure makes progress. A run that fails at a declared scalar succeeds
or fails at a later position once that scalar is mapped, so that following the advice at most once
for every declared scalar ends in success or in a failure of another kind. Declarations that are
built do not change when scalars are mapped that had no entry. -/
theorem Schema.advice_progress (registry : Registry) (options : Options) (schema : Schema) :
    (∀ scalars unrecognized zodType, unrecognized.declared = true → zodType ≠ [] →
      schema.generated registry (options.withScalars scalars) =
        .error (.unrecognized unrecognized) →
      ∃ position,
        schema.FailsAt (registry.registerAll scalars.entries) position
          (.unrecognized unrecognized) ∧
        ((∃ declarations, schema.generated registry
            (options.withScalars (scalars.insert unrecognized.typeName zodType)) =
              .ok declarations) ∨
          ∃ later failure, schema.generated registry
            (options.withScalars (scalars.insert unrecognized.typeName zodType)) =
              .error failure ∧
            schema.FailsAt
              (registry.registerAll (scalars.insert unrecognized.typeName zodType).entries) later
              failure ∧
            position.Before later)) ∧
    (∀ choose : Table Text → UnrecognizedType → Text,
      (∀ scalars unrecognized, choose scalars unrecognized ≠ []) →
      ∀ scalars, ∃ rounds ≤ schema.scalars.toFinset.card,
        IsSettled (schema.generated registry
          (options.withScalars ((schema.advise registry options choose)^[rounds] scalars)))) ∧
    ∀ (scalars added : Table Text) (declarations : List Declaration),
      (∀ name ∈ added.keys, (registry.registerAll scalars.entries).has name = false) →
      schema.generated registry (options.withScalars scalars) = .ok declarations →
      schema.generated registry (options.withScalars (scalars.insertAll added.entries)) =
        .ok declarations := by
  refine ⟨?_, ?_, ?_⟩
  · intro scalars unrecognized zodType declared filled failed
    exact generated_insert filled declared failed
  · intro choose filled scalars
    obtain ⟨rounds, bound, settled⟩ :=
      schema.exists_isSettled registry options filled scalars
    have fewer : (schema.unmapped (registry.registerAll scalars.entries)).card ≤
        schema.scalars.toFinset.card := Finset.card_filter_le _ _
    exact ⟨rounds, bound.trans fewer, settled⟩
  · intro scalars added declarations unregistered built
    exact generated_insertAll unregistered built

def accountSchema : Schema where
  scalars := ["Email", "Url"]
  inputs := Table.ofList [("Account", {
    name := "Account"
    fields := [
      { name := "id", candidates := [{ name := "ID" }] },
      { name := "email", candidates := [{ name := "Email" }] },
      { name := "site", candidates := [{ name := "Url" }] }] })]

def accountFailure (typeName field : Text) : UnrecognizedType where
  typeName
  location := Location.scalar
  owner := some ("Account" : Text)
  field := some field
  declared := true

theorem Schema.advice_progress_accountSchema :
    accountSchema.generated Registry.default (({} : Options).withScalars {}) =
      .error (.unrecognized (accountFailure "Email" "email")) ∧
    (∃ position,
      accountSchema.FailsAt (Registry.default.registerAll []) position
        (.unrecognized (accountFailure "Email" "email")) ∧
      ∃ later,
        accountSchema.FailsAt
          (Registry.default.registerAll [(("Email" : Text), ("string" : Text))]) later
          (.unrecognized (accountFailure "Url" "site")) ∧
        position.Before later) := by
  have failed : accountSchema.generated Registry.default (({} : Options).withScalars {}) =
      .error (.unrecognized (accountFailure "Email" "email")) := by rfl
  refine ⟨failed, ?_⟩
  obtain ⟨position, fails, ⟨declarations, built⟩ | ⟨later, failure, result, further, order⟩⟩ :=
    (advice_progress Registry.default {} accountSchema).1 {} _ "string" rfl (by decide) failed
  · cases built
  · cases result
    exact ⟨position, fails, later, further, order⟩

end ZodValidators
