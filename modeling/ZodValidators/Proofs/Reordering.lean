import Mathlib.Data.List.Nodup
import ZodValidators.Proofs.Traversal

/-!
# Schemas up to order

Two schemas may hold the same metadata in different orders. The order of declarations depends on
that, but whether there are declarations does not: every field is usable or not by itself.
-/

set_option autoImplicit false

namespace ZodValidators

/-- Tables in which the same is found under every key have the same entries. -/
theorem Table.perm_entries {α : Type} {table other : Table α}
    (found : ∀ key, table.find? key = other.find? key) : table.entries.Perm other.entries := by
  have unique : table.entries.Nodup := List.Nodup.of_map Prod.fst table.distinct
  have otherUnique : other.entries.Nodup := List.Nodup.of_map Prod.fst other.distinct
  rw [List.perm_ext_iff_of_nodup unique otherUnique]
  intro entry
  rw [mem_entries_iff, mem_entries_iff, found]

/-- The name and the set of the fields are the same; the descriptions may differ. -/
structure InputType.SameFields (left right : InputType) : Prop where
  name : left.name = right.name
  fields : left.fields.Perm right.fields

/-- The two schemas differ only in the order of what they hold and in the descriptions of input
types. -/
structure Schema.Reorders (left right : Schema) : Prop where
  scalars : ∀ name, name ∈ left.scalars ↔ name ∈ right.scalars
  enums : left.enums.entries.Perm right.enums.entries
  inputs : ∀ key, Option.Rel InputType.SameFields (left.inputs.find? key) (right.inputs.find? key)
  queries : left.queries.Perm right.queries
  mutations : left.mutations.Perm right.mutations

namespace Schema.Reorders

variable {left right : Schema}

theorem symm (reorders : left.Reorders right) : right.Reorders left where
  scalars := fun name => (reorders.scalars name).symm
  enums := reorders.enums.symm
  inputs := by
    intro key
    have related := reorders.inputs key
    generalize left.inputs.find? key = found, right.inputs.find? key = other at related ⊢
    cases related with
    | none => exact .none
    | some same => exact .some ⟨same.name.symm, same.fields.symm⟩
  queries := reorders.queries.symm
  mutations := reorders.mutations.symm

theorem exists_input (reorders : left.Reorders right) {inputType : InputType}
    (member : inputType ∈ left.inputs.values) :
    ∃ other ∈ right.inputs.values, inputType.SameFields other := by
  obtain ⟨entry, listed, rfl⟩ := List.mem_map.mp member
  have related := reorders.inputs entry.1
  rw [Table.mem_entries_iff.mp listed] at related
  generalize found : right.inputs.find? entry.1 = result at related
  cases related with
  | some same => exact ⟨_, List.mem_map.mpr ⟨_, Table.mem_entries_iff.mpr found, rfl⟩, same⟩

theorem mem_ownedFields (reorders : left.Reorders right) {owned : Text × Field}
    (member : owned ∈ left.ownedFields) : owned ∈ right.ownedFields := by
  simp only [ownedFields, List.mem_append] at member ⊢
  obtain (input | query) | mutation := member
  · left; left
    obtain ⟨inputType, listed, owns⟩ := List.mem_flatMap.mp input
    obtain ⟨field, present, rfl⟩ := List.mem_map.mp owns
    obtain ⟨other, otherListed, same⟩ := reorders.exists_input listed
    refine List.mem_flatMap.mpr ⟨other, otherListed, List.mem_map.mpr ⟨field, ?_, ?_⟩⟩
    · exact same.fields.mem_iff.mp present
    · rw [same.name]
  · left; right
    exact (reorders.queries.flatMap_right _).mem_iff.mp query
  · right
    exact (reorders.mutations.flatMap_right _).mem_iff.mp mutation

theorem exists_sections (reorders : left.Reorders right) {options : Options} {registry : Registry}
    (built : ∃ generated, left.sections options registry = .ok generated) :
    ∃ generated, right.sections options registry = .ok generated := by
  rw [exists_sections_iff] at built ⊢
  intro owned member
  exact built owned (reorders.symm.mem_ownedFields member)

end Schema.Reorders

end ZodValidators
