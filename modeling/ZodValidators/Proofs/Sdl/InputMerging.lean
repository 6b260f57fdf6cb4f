import ZodValidators.Proofs.Sdl.Places

/-!
# Merged input types

The fields of an input type are those of all its definitions and extensions in the order in which
they are met, without the fields whose names came before. Merging compares each further list of
fields with what has been kept so far, so a name that stands twice in one list is not noticed; where
this does not happen, the result is read off all lists one after the other.
-/

set_option autoImplicit false

namespace ZodValidators

/-! ## First items of their keys -/

section FirstOfEach

variable {ι κ : Type} [DecidableEq κ] {key : ι → κ}

/-- The items whose keys no earlier item has. -/
def firstOfEach (key : ι → κ) (items : List ι) : List ι :=
  items.eraseDupsBy fun item earlier => decide (key item = key earlier)

theorem firstOfEach_cons (item : ι) (rest : List ι) :
    firstOfEach key (item :: rest) =
      item :: firstOfEach key (rest.filter fun other => key other ≠ key item) := by
  rw [firstOfEach, List.eraseDupsBy_cons]
  simp [firstOfEach]

theorem firstOfEach_append {items : List ι} (distinct : (items.map key).Nodup) (others : List ι) :
    firstOfEach key (items ++ others) =
      items ++ firstOfEach key (others.filter fun other => key other ∉ items.map key) := by
  induction items generalizing others with
  | nil =>
      have all : others.filter (fun other => key other ∉ ([] : List ι).map key) = others :=
        List.filter_eq_self.mpr (by simp)
      rw [all, List.nil_append, List.nil_append]
  | cons item rest ih =>
      rw [List.map_cons, List.nodup_cons] at distinct
      have new : rest.filter (fun other => key other ≠ key item) = rest := by
        apply List.filter_eq_self.mpr
        intro other member
        apply decide_eq_true
        intro same
        exact distinct.1 (same ▸ List.mem_map_of_mem member)
      have further : (others.filter fun other => key other ≠ key item).filter
            (fun other => key other ∉ rest.map key) =
          others.filter fun other => key other ∉ (item :: rest).map key := by
        rw [List.filter_filter]
        apply List.filter_congr
        intro other _
        rw [Bool.eq_iff_iff]
        simp only [Bool.and_eq_true, decide_eq_true_eq, List.map_cons, List.mem_cons, not_or]
        exact and_comm
      rw [List.cons_append, firstOfEach_cons, List.filter_append, new, ih distinct.2, further,
        List.cons_append]

/-- Only the items with other keys count behind an item, so the induction is on their number. -/
private theorem firstOfEach_induction (key : ι → κ) {motive : List ι → Prop} (nil : motive [])
    (cons : ∀ item rest,
      motive (rest.filter fun other => key other ≠ key item) → motive (item :: rest))
    (items : List ι) : motive items := by
  induction size : items.length using Nat.strongRecOn generalizing items with
  | _ size ih =>
      cases items with
      | nil => exact nil
      | cons item rest =>
          apply cons
          apply ih _ _ _ rfl
          rw [← size, List.length_cons]
          exact Nat.lt_succ_of_le (List.length_filter_le ..)

theorem find?_firstOfEach (items : List ι) (wanted : κ) :
    (firstOfEach key items).find? (fun item => key item = wanted) =
      items.find? fun item => key item = wanted := by
  induction items using firstOfEach_induction key with
  | nil => rfl
  | cons item rest ih =>
      rw [firstOfEach_cons, List.find?_cons, List.find?_cons, ih, List.find?_filter]
      by_cases same : key item = wanted
      · simp [same]
      · have others : (fun other => decide (decide (key other ≠ key item) = true ∧
            decide (key other = wanted) = true)) = fun other => decide (key other = wanted) := by
          funext other
          by_cases found : key other = wanted <;> simp [found, Ne.symm same]
        rw [others]

theorem nodup_firstOfEach (items : List ι) : ((firstOfEach key items).map key).Nodup := by
  induction items using firstOfEach_induction key with
  | nil => exact List.nodup_nil
  | cons item rest ih =>
      rw [firstOfEach_cons, List.map_cons, List.nodup_cons]
      refine ⟨?_, ih⟩
      intro member
      obtain ⟨other, listed, same⟩ := List.mem_map.mp member
      have missing : (firstOfEach key (rest.filter fun other => key other ≠ key item)).find?
          (fun other => key other = key item) = none := by
        rw [find?_firstOfEach, List.find?_eq_none]
        intro later kept
        simpa using (List.mem_filter.mp kept).2
      exact absurd (decide_eq_true same) (List.find?_eq_none.mp missing other listed)

end FirstOfEach

/-! ## Merging lists of fields -/

namespace Sdl

theorem keptFields_eq_firstOfEach {lists : List (List InputValue)}
    (unrepeated : ∀ fields ∈ lists, (fields.map InputValue.name).Nodup) (seen : List String) :
    keptFields seen lists =
      firstOfEach InputValue.name (lists.flatten.filter fun field => field.name ∉ seen) := by
  induction lists generalizing seen with
  | nil => rfl
  | cons fields rest ih =>
      rw [List.forall_mem_cons] at unrepeated
      have distinct : ((fields.filter fun field => field.name ∉ seen).map InputValue.name).Nodup :=
        unrepeated.1.sublist (List.filter_sublist.map InputValue.name)
      have further : rest.flatten.filter (fun field =>
            field.name ∉ seen ++ fields.map InputValue.name) =
          (rest.flatten.filter fun field => field.name ∉ seen).filter fun field =>
            field.name ∉ (fields.filter fun field => field.name ∉ seen).map InputValue.name := by
        rw [List.filter_filter]
        apply List.filter_congr
        intro field _
        -- A name of the list that is not kept was seen before.
        rw [Bool.eq_iff_iff]
        simp only [decide_eq_true_eq, Bool.and_eq_true, List.mem_append, List.mem_map,
          List.mem_filter]
        grind
      rw [keptFields, ih unrepeated.2, List.flatten_cons, List.filter_append,
        firstOfEach_append distinct, further]

theorem inputFields_eq_firstOfEach {name : String} {definitions : List Definition}
    (unrepeated : ∀ part ∈ inputParts name definitions, (part.1.map InputValue.name).Nodup) :
    inputFields name definitions =
      firstOfEach InputValue.name ((inputParts name definitions).flatMap Prod.fst) := by
  have lists : ∀ fields ∈ (inputParts name definitions).map Prod.fst,
      (fields.map InputValue.name).Nodup := List.forall_mem_map.mpr unrepeated
  rw [inputFields, keptFields_eq_firstOfEach lists, List.flatMap_def]
  congr 1
  exact List.filter_eq_self.mpr (by simp)

theorem nodup_map_name_locatedField {values : List InputValue}
    (distinct : (values.map InputValue.name).Nodup) (definitions : List Definition) :
    ((values.map (·.locatedField definitions)).map Field.name).Nodup := by
  have names : (values.map (·.locatedField definitions)).map Field.name =
      (values.map InputValue.name).map Text.ofString := by
    rw [List.map_map, List.map_map]
    rfl
  rw [names]
  apply List.Pairwise.map Text.ofString _ distinct
  intro name other different same
  exact different (Text.ofString_injective same)

theorem find?_locatedField (values : List InputValue) (definitions : List Definition)
    (name : String) :
    (values.map (·.locatedField definitions)).find? (fun field => field.name = (name : Text)) =
      (values.find? fun value => value.name = name).map (·.locatedField definitions) := by
  have named : ((fun field : Field => decide (field.name = (name : Text))) ∘
      (·.locatedField definitions)) = fun value : InputValue => decide (value.name = name) := by
    funext value
    exact decide_eq_decide.mpr ⟨Text.ofString_injective, congrArg Text.ofString⟩
  rw [List.find?_map, named]

end Sdl

namespace Schema

/-- An input type has the first field of each name that its definitions and extensions give, in
their order, and it stands where the first of them puts it. -/
theorem merged_inputs_ofDocuments {documents : List Sdl.Document} {name : String}
    (defined : name ∈ Sdl.inputNames documents.flatten)
    (unrepeated : ∀ part ∈ Sdl.inputParts name documents.flatten,
      (part.1.map Sdl.InputValue.name).Nodup) :
    (∃ inputType, (ofDocuments documents).inputs.find? name = some inputType ∧
      inputType.fields = (firstOfEach Sdl.InputValue.name
        ((Sdl.inputParts name documents.flatten).flatMap Prod.fst)).map
          (·.locatedField documents.flatten) ∧
      (inputType.fields.map Field.name).Nodup ∧
      ∀ fieldName : String,
        inputType.fields.find? (fun field => field.name = (fieldName : Text)) =
          (((Sdl.inputParts name documents.flatten).flatMap Prod.fst).find? fun value =>
            value.name = fieldName).map (·.locatedField documents.flatten)) ∧
    (ofDocuments documents).inputs.keys =
      (documents.flatten.filterMap Sdl.Definition.inputName?).eraseDups.map Text.ofString := by
  refine ⟨?_, keys_inputs_ofDocuments documents⟩
  obtain ⟨first, rest, parts⟩ :=
    List.exists_cons_of_ne_nil (Sdl.inputParts_ne_nil defined)
  have found := find?_inputs_ofDocuments documents name
  rw [Sdl.inputFields_eq_firstOfEach unrepeated, parts, List.head?_cons, Option.map_some,
    ← parts] at found
  refine ⟨_, found, rfl, ?_, ?_⟩
  · exact Sdl.nodup_map_name_locatedField (nodup_firstOfEach _) _
  · intro fieldName
    rw [Sdl.find?_locatedField, find?_firstOfEach]

def profileDocuments : List Sdl.Document := [
  [.input "Profile" [{ name := "age", type := .named "Int" true }] none,
    .input "Filter" [] none],
  [.object "Query" [{ name := "find" }],
    .input "Profile" [{ name := "age", type := .named "String" false },
      { name := "name", type := .named "String" false }] none]]

theorem merged_inputs_profileDocuments :
    "Profile" ∈ Sdl.inputNames profileDocuments.flatten ∧
    (∀ part ∈ Sdl.inputParts "Profile" profileDocuments.flatten,
      (part.1.map Sdl.InputValue.name).Nodup) ∧
    (∃ inputType, (ofDocuments profileDocuments).inputs.find? "Profile" = some inputType ∧
      inputType.fields.map Field.name = [("age" : Text), "name"] ∧
      (inputType.fields.find? fun field => field.name = ("age" : Text)).map Field.required =
        some true) ∧
    (ofDocuments profileDocuments).inputs.keys = [("Profile" : Text), "Filter"] := by
  have defined : "Profile" ∈ Sdl.inputNames profileDocuments.flatten := by decide
  have unrepeated : ∀ part ∈ Sdl.inputParts "Profile" profileDocuments.flatten,
      (part.1.map Sdl.InputValue.name).Nodup := by decide
  obtain ⟨⟨inputType, found, fields, _, survive⟩, keys⟩ :=
    merged_inputs_ofDocuments defined unrepeated
  refine ⟨defined, unrepeated, ⟨inputType, found, ?_, ?_⟩, keys⟩
  · rw [fields]
    rfl
  · rw [survive]
    rfl

end Schema

end ZodValidators
