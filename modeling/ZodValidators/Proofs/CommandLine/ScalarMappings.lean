import ZodValidators.CommandLine.Generate
import ZodValidators.Proofs.Traversal

/-!
# Scalars that are mapped by the command

A value is refused when a side of its first equals sign is empty, and the blanks around both sides
are dropped only after that. So a side of blanks alone is accepted and becomes empty. An empty zod
constructor is none: the scalar of such a value is not recognized, even if it is a built-in one.
-/

set_option autoImplicit false

namespace ZodValidators

open Text

/-! ## Categories of mapped scalars -/

theorem TypeKind.classify_registerAll {registry : Registry} {mapping : Table Text}
    {name zodType : Text} (listed : (name, zodType) ∈ mapping.entries) :
    classify (registry.registerAll mapping.entries) { name } =
      if name = "Null" then .ok .null
      else if zodType = [] then .error { typeName := name, location := Location.scalar }
      else .ok (.scalar zodType) := by
  have found := Table.mem_entries_iff.mp listed
  have place : isReferencePlace Location.scalar = false := by decide
  by_cases null : name = "Null"
  · simp [classify, TypeRef.isNull, null]
  · simp [classify, TypeRef.isNull, null, place, Registry.zodType?_registerAll, found]

namespace CommandLine

/-! ## The sides of a value -/

/-- The name and the zod constructor are what stands before and behind the first equals sign. -/
structure Splits (value : String) (name zodType : List Char) : Prop where
  content : value.toList = name ++ '=' :: zodType
  first : '=' ∉ name

theorem splits_iff {value : String} {name zodType : List Char} :
    Splits value name zodType ↔ splitAtEquals? value.toList = some (name, zodType) := by
  rw [splitAtEquals?_eq_some_iff]
  exact ⟨fun splits => ⟨splits.content, splits.first⟩, fun ⟨content, first⟩ => ⟨content, first⟩⟩

/-- The value has a first equals sign, and both of its sides pass a test. -/
def HasSides (passes : List Char → Prop) (value : String) : Prop :=
  ∃ name zodType, Splits value name zodType ∧ passes name ∧ passes zodType

instance (passes : List Char → Prop) [DecidablePred passes] (value : String) :
    Decidable (HasSides passes value) :=
  decidable_of_iff
    (∃ sides ∈ splitAtEquals? value.toList, passes sides.1 ∧ passes sides.2)
    (by simp [HasSides, splits_iff])

/-- Neither side is empty as it stands. -/
abbrev IsMapping : String → Prop := HasSides (· ≠ [])

/-- Neither side is empty when the blanks around it are dropped. -/
abbrev IsUsable : String → Prop := HasSides (trim · ≠ [])

/-- The scalar and the zod constructor that a value gives: its sides, neither of them empty, without
the blanks around them. -/
def Gives (value : String) (entry : Text × Text) : Prop :=
  ∃ name zodType, Splits value name zodType ∧ name ≠ [] ∧ zodType ≠ [] ∧
    entry = (ofChars (trim name), ofChars (trim zodType))

theorem Splits.unique {value : String} {name zodType otherName otherType : List Char}
    (splits : Splits value name zodType) (other : Splits value otherName otherType) :
    name = otherName ∧ zodType = otherType := by
  rw [splits_iff] at splits other
  exact Prod.mk.inj (Option.some.inj (splits.symm.trans other))

theorem IsUsable.isMapping {value : String} (usable : IsUsable value) : IsMapping value := by
  obtain ⟨name, zodType, splits, named, typed⟩ := usable
  refine ⟨name, zodType, splits, ?_, ?_⟩
  · rintro rfl
    exact named rfl
  · rintro rfl
    exact typed rfl

/-- A usable value gives a scalar with a name and a zod constructor. -/
theorem IsUsable.filled {value : String} {entry : Text × Text} (usable : IsUsable value)
    (gives : Gives value entry) : entry.1 ≠ [] ∧ entry.2 ≠ [] := by
  obtain ⟨name, zodType, splits, named, typed⟩ := usable
  obtain ⟨_, _, others, _, _, rfl⟩ := gives
  obtain ⟨rfl, rfl⟩ := splits.unique others
  exact ⟨mt List.map_eq_nil_iff.mp named, mt List.map_eq_nil_iff.mp typed⟩

/-! ## One value -/

theorem scalarMapping_eq_ok_iff {value : String} {entry : Text × Text} :
    scalarMapping value = .ok entry ↔ Gives value entry := by
  simp only [Gives, splits_iff, scalarMapping]
  cases split : splitAtEquals? value.toList with
  | none => simp
  | some sides =>
      obtain ⟨name, zodType⟩ := sides
      by_cases named : name = []
      · simp [named]
      · by_cases typed : zodType = []
        · simp [typed]
        · simp [named, typed, eq_comm]

theorem exists_gives_iff {value : String} : (∃ entry, Gives value entry) ↔ IsMapping value := by
  constructor
  · rintro ⟨entry, name, zodType, splits, named, typed, _⟩
    exact ⟨name, zodType, splits, named, typed⟩
  · rintro ⟨name, zodType, splits, named, typed⟩
    exact ⟨_, name, zodType, splits, named, typed, rfl⟩

theorem failureOf?_scalarMapping (value : String) :
    failureOf? (scalarMapping value) = if IsMapping value then none else some value := by
  cases mapped : scalarMapping value with
  | ok entry =>
      have mapping := exists_gives_iff.mp ⟨entry, scalarMapping_eq_ok_iff.mp mapped⟩
      rw [failureOf?_ok, if_pos mapping]
  | error failure =>
      have refused : ¬ IsMapping value := by
        intro mapping
        obtain ⟨entry, gives⟩ := exists_gives_iff.mpr mapping
        rw [scalarMapping_eq_ok_iff.mpr gives] at mapped
        cases mapped
      have reported : failure = value := by
        unfold scalarMapping at mapped
        split at mapped
        · exact (Except.error.inj mapped).symm
        · split at mapped
          · exact (Except.error.inj mapped).symm
          · cases mapped
      rw [failureOf?_error, if_neg refused, reported]

/-! ## All values -/

theorem scalarMappings_eq_error_iff {values : List String} {value : String} :
    scalarMappings values = .error value ↔
      values.find? (fun one => ¬ IsMapping one) = some value := by
  rw [scalarMappings, map_eq_error_iff, ← failureOf?_eq_some_iff, failureOf?_gather,
    List.find?_eq_findSome?_guard]
  have same : (fun one => failureOf? (scalarMapping one)) =
      Option.guard fun one => decide ¬ IsMapping one := by
    funext one
    rw [failureOf?_scalarMapping, Option.guard]
    by_cases mapping : IsMapping one <;> simp [mapping]
  rw [same]

theorem scalarMappings_eq_ok_iff {values : List String} {mapping : Table Text} :
    scalarMappings values = .ok mapping ↔
      ∃ entries, List.Forall₂ Gives values entries ∧ mapping = Table.ofList entries := by
  rw [scalarMappings, map_eq_ok_iff]
  simp only [gather_eq_ok_iff_forall₂, scalarMapping_eq_ok_iff]

/-- The scalars stand in the order in which they came first, and the last value of each counts. -/
theorem eq_ofList_iff {mapping : Table Text} {entries : List (Text × Text)} :
    mapping = Table.ofList entries ↔
      mapping.keys = (entries.map Prod.fst).eraseDups ∧
        ∀ name, mapping.find? name = entries.reverse.lookup name := by
  constructor
  · rintro rfl
    exact ⟨Table.keys_ofList entries, Table.find?_ofList entries⟩
  · rintro ⟨keys, found⟩
    apply Table.ext_find? (keys.trans (Table.keys_ofList entries).symm)
    intro name
    rw [found, Table.find?_ofList]

/-- A stricter test refuses the same item first exactly when every item in front of the first one
that is refused anyway passes it. -/
theorem find?_not_eq_iff {α : Type} {passes stricter : α → Prop} [DecidablePred passes]
    [DecidablePred stricter] (passing : ∀ item, stricter item → passes item) (items : List α) :
    items.find? (fun item => ¬ passes item) = items.find? (fun item => ¬ stricter item) ↔
      ∀ item ∈ items.takeWhile passes, stricter item := by
  induction items with
  | nil => simp
  | cons item rest ih =>
      by_cases passed : passes item
      · by_cases strict : stricter item
        · simpa [List.takeWhile_cons, passed, strict] using ih
        · have different : rest.find? (fun item => ¬ passes item) ≠ some item := by
            intro found
            have refused := List.find?_some found
            simp [passed] at refused
          simpa [List.takeWhile_cons, passed, strict] using different
      · simp [passed, mt (passing item) passed]

/-- Values that are all usable are accepted, and every scalar and zod constructor has a name. -/
theorem exists_filled_mapping {values : List String} (usable : ∀ value ∈ values, IsUsable value) :
    ∃ mapping, scalarMappings values = .ok mapping ∧
      ∀ entry ∈ mapping.entries, entry.1 ≠ [] ∧ entry.2 ≠ [] := by
  cases result : scalarMappings values with
  | error value =>
      have found := scalarMappings_eq_error_iff.mp result
      have refused := List.find?_some found
      simp [(usable value (List.mem_of_find?_eq_some found)).isMapping] at refused
  | ok mapping =>
      refine ⟨mapping, rfl, ?_⟩
      obtain ⟨entries, given, rfl⟩ := scalarMappings_eq_ok_iff.mp result
      intro entry member
      rcases Table.mem_of_mem_insertAll member with none | listed
      · cases none
      · obtain ⟨value, present, gives⟩ := exists_of_forall₂ given listed
        exact (usable value present).filled gives

/-- What the values of the switch come to. The first value with an empty side is refused and
reported. Otherwise the scalars are mapped in the order in which they came first, the last value of
each counting, and every one with a zod constructor is recognized. A check of the sides without
their blanks refuses the same values exactly when every value that is read before a refusal passes
it. -/
theorem scalarMappings_outcome (values : List String) :
    (∀ value, scalarMappings values = .error value ↔
      values.find? (fun one => ¬ IsMapping one) = some value) ∧
    (∀ tree job value, job.scalars = values → scalarMappings values = .error value →
      generate tree job =
        (Complaint.invalidValue "--scalar"
          ("Expected NAME=ZODTYPE, got " ++ quoted value)).outcome tree .generate) ∧
    (∀ mapping, scalarMappings values = .ok mapping ↔
      ∃ entries, List.Forall₂ Gives values entries ∧
        mapping.keys = (entries.map Prod.fst).eraseDups ∧
        ∀ name, mapping.find? name = entries.reverse.lookup name) ∧
    (∀ mapping, scalarMappings values = .ok mapping →
      ∀ (registry : Registry) (name zodType : Text), (name, zodType) ∈ mapping.entries →
        TypeKind.classify (registry.registerAll mapping.entries) { name } =
          if name = "Null" then .ok .null
          else if zodType = [] then .error { typeName := name, location := Location.scalar }
          else .ok (.scalar zodType)) ∧
    ((∀ value, scalarMappings values = .error value ↔
        values.find? (fun one => ¬ IsUsable one) = some value) ↔
      ∀ value ∈ values.takeWhile IsMapping, IsUsable value) ∧
    ((∀ value ∈ values, IsUsable value) →
      ∃ mapping, scalarMappings values = .ok mapping ∧
        ∀ entry ∈ mapping.entries, entry.1 ≠ [] ∧ entry.2 ≠ []) := by
  refine ⟨?refused, ?reported, ?accepted, ?recognized, ?stricter, exists_filled_mapping⟩
  case refused => exact fun value => scalarMappings_eq_error_iff
  case reported =>
    intro tree job value given refused
    rw [generate, given, refused]
    rfl
  case accepted =>
    intro mapping
    rw [scalarMappings_eq_ok_iff]
    simp only [eq_ofList_iff]
  case recognized =>
    intro mapping _ registry name zodType listed
    exact TypeKind.classify_registerAll listed
  case stricter =>
    simp only [scalarMappings_eq_error_iff]
    rw [← Option.ext_iff]
    exact find?_not_eq_iff (fun _ => IsUsable.isMapping) values

def emailMapping (zodType : Text) : Table Text := Table.ofList [("Email", zodType)]

/-- A zod constructor of a blank alone is accepted, and the scalar is not recognized. -/
theorem scalarMappings_blankZodType :
    ¬ (∀ value, scalarMappings ["Email= "] = .error value ↔
        ["Email= "].find? (fun one => ¬ IsUsable one) = some value) ∧
    scalarMappings ["Email= "] = .ok (emailMapping "") ∧
    TypeKind.classify (Registry.default.registerAll (emailMapping "").entries)
        { name := "Email" } =
      .error { typeName := "Email", location := Location.scalar } := by
  refine ⟨?_, by rfl, by rfl⟩
  intro same
  have refused : scalarMappings ["Email= "] = .error "Email= " := (same _).mpr (by decide)
  cases refused

/-- Two values for one scalar, the first with blanks around its name. -/
def emailValues : List String := [" Email =string", "Email=a=b"]

theorem scalarMappings_outcome_emailValues :
    ∃ mapping, scalarMappings emailValues = .ok mapping ∧ mapping = emailMapping "a=b" ∧
      TypeKind.classify (Registry.default.registerAll mapping.entries) { name := "Email" } =
        .ok (.scalar "a=b") := by
  obtain ⟨_, _, _, recognized, _, usable⟩ := scalarMappings_outcome emailValues
  obtain ⟨mapping, accepted, _⟩ := usable (by decide)
  have same : mapping = emailMapping "a=b" := Except.ok.inj (accepted.symm.trans (by rfl))
  refine ⟨mapping, accepted, same, ?_⟩
  exact recognized mapping accepted Registry.default "Email" "a=b" (by rw [same]; decide)

end CommandLine

end ZodValidators
