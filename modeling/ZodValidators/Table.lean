import ZodValidators.Text.Basic

/-!
# Tables in order of insertion

A table holds one value for each of its keys and remembers in which order the keys came. A new
value for a key that is already there takes the place of the old one.
-/

set_option autoImplicit false

namespace ZodValidators

/-- Entries with distinct keys, in the order in which the keys were inserted. -/
@[ext] structure Table (α : Type) where
  entries : List (Text × α)
  distinct : (entries.map Prod.fst).Nodup
deriving DecidableEq, Repr

namespace Table

variable {α β : Type}

/-- The entries with a value under a key: in the place of the key's entry, or at the end. -/
def put (key : Text) (value : α) : List (Text × α) → List (Text × α)
  | [] => [(key, value)]
  | (other, old) :: rest =>
    if other = key then (other, value) :: rest else (other, old) :: put key value rest

def at? (key : Text) : List (Text × α) → Option α
  | [] => none
  | (other, value) :: rest => if other = key then some value else at? key rest

/-- Putting keeps the keys and their order, and adds only a key that was missing. -/
theorem keys_put (key : Text) (value : α) (entries : List (Text × α)) :
    (put key value entries).map Prod.fst =
      if key ∈ entries.map Prod.fst then entries.map Prod.fst
      else entries.map Prod.fst ++ [key] := by
  induction entries with
  | nil => simp [put]
  | cons entry rest ih =>
      obtain ⟨other, old⟩ := entry
      by_cases same : other = key
      · simp [put, same]
      · have different : key ≠ other := fun equal => same equal.symm
        by_cases member : key ∈ rest.map Prod.fst <;> simp_all [put]

theorem nodup_keys_put (key : Text) (value : α) {entries : List (Text × α)}
    (distinct : (entries.map Prod.fst).Nodup) : ((put key value entries).map Prod.fst).Nodup := by
  rw [keys_put]
  split
  · exact distinct
  · next absent =>
      rw [List.nodup_append]
      refine ⟨distinct, by simp, ?_⟩
      intro left leftIn right rightIn same
      simp only [List.mem_singleton] at rightIn
      exact absent (rightIn ▸ same ▸ leftIn)

def empty : Table α := ⟨[], List.nodup_nil⟩

instance : EmptyCollection (Table α) := ⟨empty⟩

instance : Inhabited (Table α) := ⟨empty⟩

def insert (table : Table α) (key : Text) (value : α) : Table α :=
  ⟨put key value table.entries, nodup_keys_put key value table.distinct⟩

def insertAll (table : Table α) (entries : List (Text × α)) : Table α :=
  entries.foldl (fun table entry => table.insert entry.1 entry.2) table

def ofList (entries : List (Text × α)) : Table α := empty.insertAll entries

def find? (table : Table α) (key : Text) : Option α := at? key table.entries

def has (table : Table α) (key : Text) : Bool := (table.find? key).isSome

def keys (table : Table α) : List Text := table.entries.map Prod.fst

def values (table : Table α) : List α := table.entries.map Prod.snd

def size (table : Table α) : Nat := table.entries.length

def filter (table : Table α) (keep : α → Bool) : Table α where
  entries := table.entries.filter fun entry => keep entry.2
  distinct := table.distinct.sublist (List.filter_sublist.map Prod.fst)

def mapValues (table : Table α) (change : α → β) : Table β where
  entries := table.entries.map fun entry => (entry.1, change entry.2)
  distinct := by
    rw [List.map_map]
    exact table.distinct

theorem at?_put (key other : Text) (value : α) (entries : List (Text × α)) :
    at? other (put key value entries) = if other = key then some value else at? other entries := by
  induction entries with
  | nil => simp [put, at?, eq_comm]
  | cons entry rest ih =>
      obtain ⟨present, old⟩ := entry
      by_cases replaced : present = key
      · by_cases same : other = key
        · simp [put, at?, replaced, same]
        · have different : key ≠ other := fun equal => same equal.symm
          simp [put, at?, replaced, same, different]
      · by_cases same : present = other
        · have different : other ≠ key := fun equal => replaced (same.trans equal)
          simp [put, at?, same, different]
        · simp [put, at?, replaced, same, ih]

@[simp] theorem find?_insert (table : Table α) (key other : Text) (value : α) :
    (table.insert key value).find? other =
      if other = key then some value else table.find? other :=
  at?_put key other value table.entries

@[simp] theorem find?_empty (key : Text) : (empty : Table α).find? key = none := rfl

theorem keys_insert (table : Table α) (key : Text) (value : α) :
    (table.insert key value).keys = if key ∈ table.keys then table.keys else table.keys ++ [key] :=
  keys_put key value table.entries

theorem nodup_keys (table : Table α) : table.keys.Nodup := table.distinct

theorem at?_of_mem {key : Text} {value : α} {entries : List (Text × α)}
    (distinct : (entries.map Prod.fst).Nodup) (member : (key, value) ∈ entries) :
    at? key entries = some value := by
  induction entries with
  | nil => cases member
  | cons entry rest ih =>
      obtain ⟨other, old⟩ := entry
      rw [List.map_cons, List.nodup_cons] at distinct
      rcases List.mem_cons.mp member with same | later
      · obtain ⟨rfl, rfl⟩ := Prod.mk.inj same
        simp [at?]
      · have different : other ≠ key := by
          rintro rfl
          exact distinct.1 (List.mem_map.mpr ⟨_, later, rfl⟩)
        simp [at?, different, ih distinct.2 later]

theorem mem_of_at? {key : Text} {value : α} {entries : List (Text × α)}
    (found : at? key entries = some value) : (key, value) ∈ entries := by
  induction entries with
  | nil => cases found
  | cons entry rest ih =>
      obtain ⟨other, old⟩ := entry
      by_cases same : other = key
      · simp only [at?, same, if_true, Option.some.injEq] at found
        simp [same, found]
      · simp only [at?, same, if_false] at found
        exact List.mem_cons_of_mem _ (ih found)

theorem map_find?_keys (table : Table α) : table.keys.map table.find? = table.values.map some := by
  rw [keys, values, List.map_map, List.map_map]
  exact List.map_congr_left fun _ member => at?_of_mem table.distinct member

/-- What is found under each key decides the values. -/
theorem map_values {ι : Type} {table : Table α} {items : List ι} {key : ι → Text}
    {view : α → β} {value : ι → β} (keys : table.keys = items.map key)
    (found : ∀ item ∈ items, (table.find? (key item)).map view = some (value item)) :
    table.values.map view = items.map value := by
  have same : (items.map value).map some = (table.values.map view).map some :=
    calc
      (items.map value).map some = items.map fun item => (table.find? (key item)).map view := by
        rw [List.map_map]
        exact (List.map_congr_left found).symm
      _ = (table.keys.map table.find?).map (Option.map view) := by
        rw [keys, List.map_map, List.map_map]
        rfl
      _ = (table.values.map view).map some := by
        rw [map_find?_keys, List.map_map, List.map_map]
        rfl
  exact ((List.map_inj_right fun _ _ => Option.some.inj).mp same).symm

theorem mem_keys_insertAll {table : Table α} {entries : List (Text × α)} {key : Text} :
    key ∈ (table.insertAll entries).keys ↔ key ∈ table.keys ∨ key ∈ entries.map Prod.fst := by
  induction entries generalizing table with
  | nil => simp [insertAll]
  | cons entry rest ih =>
      rw [insertAll, List.foldl_cons, ← insertAll, ih, keys_insert, List.map_cons, List.mem_cons]
      by_cases present : entry.1 ∈ table.keys
      · have found : key = entry.1 → key ∈ table.keys := fun same => same ▸ present
        rw [if_pos present, ← or_assoc, or_iff_left_of_imp found]
      · rw [if_neg present, List.mem_append, List.mem_singleton, or_assoc]

theorem eraseDups_concat {ι : Type} [BEq ι] [LawfulBEq ι] (names : List ι) (name : ι) :
    (names ++ [name]).eraseDups =
      if name ∈ names then names.eraseDups else names.eraseDups ++ [name] := by
  rw [List.eraseDups_append]
  by_cases member : name ∈ names <;> simp [List.removeAll, List.eraseDups_cons, member]

theorem eraseDups_eq_self {ι : Type} [BEq ι] [LawfulBEq ι] {names : List ι}
    (distinct : names.Nodup) : names.eraseDups = names := by
  induction names with
  | nil => rfl
  | cons name rest ih =>
      rw [List.nodup_cons] at distinct
      have others : (rest.filter fun other => !other == name) = rest := by
        apply List.filter_eq_self.mpr
        intro other member
        have different : other ≠ name := fun same => distinct.1 (same ▸ member)
        simp [different]
      rw [List.eraseDups_cons, others, ih distinct.2]

theorem keys_insertAll {table : Table α} {names : List Text} (keys : table.keys = names.eraseDups)
    (entries : List (Text × α)) :
    (table.insertAll entries).keys = (names ++ entries.map Prod.fst).eraseDups := by
  induction entries generalizing table names with
  | nil => simpa [insertAll] using keys
  | cons entry rest ih =>
      have inserted : (table.insert entry.1 entry.2).keys = (names ++ [entry.1]).eraseDups := by
        rw [keys_insert, eraseDups_concat, keys]
        simp only [List.mem_eraseDups]
      rw [insertAll, List.foldl_cons, ← insertAll, ih inserted, List.append_assoc]
      rfl

theorem keys_ofList (entries : List (Text × α)) :
    (ofList entries).keys = (entries.map Prod.fst).eraseDups := by
  have none : (empty : Table α).keys = ([] : List Text).eraseDups := rfl
  exact keys_insertAll none entries

theorem find?_insertAll (table : Table α) (entries : List (Text × α)) (key : Text) :
    (table.insertAll entries).find? key = (entries.reverse.lookup key).or (table.find? key) := by
  induction entries generalizing table with
  | nil => rfl
  | cons entry rest ih =>
      obtain ⟨present, value⟩ := entry
      rw [insertAll, List.foldl_cons, ← insertAll, ih, find?_insert, List.reverse_cons,
        List.lookup_append, Option.or_assoc]
      by_cases same : key = present
      · rw [if_pos same, same, List.lookup_cons_self, Option.some_or]
      · rw [if_neg same, List.lookup_cons, beq_false_of_ne same]
        rfl

theorem find?_insertAll_of_not_mem {table : Table α} {entries : List (Text × α)} {key : Text}
    (absent : key ∉ entries.map Prod.fst) :
    (table.insertAll entries).find? key = table.find? key := by
  have missing : entries.reverse.lookup key = none := by
    rw [List.lookup_eq_none_iff]
    intro entry member
    apply bne_iff_ne.mpr
    rintro rfl
    exact absent (List.mem_map_of_mem (List.mem_reverse.mp member))
  rw [find?_insertAll, missing, Option.none_or]

theorem exists_find?_insertAll {table : Table α} {entries : List (Text × α)} {key : Text}
    (member : key ∈ entries.map Prod.fst) :
    ∃ value, (key, value) ∈ entries ∧ (table.insertAll entries).find? key = some value := by
  cases found : entries.reverse.lookup key with
  | none =>
      obtain ⟨entry, listed, rfl⟩ := List.mem_map.mp member
      have different := List.lookup_eq_none_iff.mp found entry (List.mem_reverse.mpr listed)
      simp at different
  | some value =>
      obtain ⟨before, behind, split, _⟩ := List.lookup_eq_some_iff.mp found
      refine ⟨value, ?_, by rw [find?_insertAll, found, Option.some_or]⟩
      rw [← List.mem_reverse, split]
      exact List.mem_append_right before List.mem_cons_self

/-- The last value that was given for a key counts. -/
theorem find?_ofList (entries : List (Text × α)) (key : Text) :
    (ofList entries).find? key = entries.reverse.lookup key := by
  rw [ofList, find?_insertAll, find?_empty, Option.or_none]

/-- A table is known by its keys in order and what is found under them. -/
theorem ext_find? {table other : Table α} (keys : table.keys = other.keys)
    (found : ∀ key, table.find? key = other.find? key) : table = other := by
  have values : table.values = other.values := by
    apply (List.map_inj_right fun _ _ => Option.some.inj).mp
    rw [← map_find?_keys, ← map_find?_keys, keys]
    exact List.map_congr_left fun key _ => found key
  apply Table.ext
  calc
    table.entries = table.keys.zip table.values := List.zip_of_prod rfl rfl
    _ = other.keys.zip other.values := by rw [keys, values]
    _ = other.entries := (List.zip_of_prod rfl rfl).symm

theorem insert_eq_self {table : Table α} {key : Text} {value : α}
    (found : table.find? key = some value) : table.insert key value = table := by
  have member : key ∈ table.keys := List.mem_map.mpr ⟨_, mem_of_at? found, rfl⟩
  apply ext_find?
  · rw [keys_insert, if_pos member]
  · intro other
    rw [find?_insert]
    split
    · next same => rw [same, found]
    · rfl

theorem insert_insert (table : Table α) (key : Text) (first second : α) :
    (table.insert key first).insert key second = table.insert key second := by
  have member : key ∈ (table.insert key first).keys := by
    rw [keys_insert]
    split
    · assumption
    · exact List.mem_append_right _ List.mem_cons_self
  apply ext_find?
  · rw [keys_insert, if_pos member, keys_insert, keys_insert]
  · intro other
    simp only [find?_insert]
    split <;> rfl

theorem mem_of_mem_put {key : Text} {value : α} {entries : List (Text × α)} {entry : Text × α}
    (member : entry ∈ put key value entries) : entry = (key, value) ∨ entry ∈ entries := by
  induction entries with
  | nil => exact .inl (List.mem_singleton.mp member)
  | cons present rest ih =>
      obtain ⟨other, old⟩ := present
      by_cases same : other = key
      · simp only [put, same, if_true, List.mem_cons] at member
        exact member.imp_right (List.mem_cons_of_mem _)
      · simp only [put, same, if_false, List.mem_cons] at member
        rcases member with rfl | later
        · exact .inr List.mem_cons_self
        · exact (ih later).imp_right (List.mem_cons_of_mem _)

theorem mem_of_mem_insertAll {table : Table α} {entries : List (Text × α)} {entry : Text × α}
    (member : entry ∈ (table.insertAll entries).entries) :
    entry ∈ table.entries ∨ entry ∈ entries := by
  induction entries generalizing table with
  | nil => exact .inl member
  | cons first rest ih =>
      rcases ih member with inTable | later
      · rcases mem_of_mem_put inTable with rfl | old
        · exact .inr List.mem_cons_self
        · exact .inl old
      · exact .inr (List.mem_cons_of_mem _ later)

theorem put_of_not_mem {key : Text} {value : α} {entries : List (Text × α)}
    (absent : key ∉ entries.map Prod.fst) : put key value entries = entries ++ [(key, value)] := by
  induction entries with
  | nil => rfl
  | cons entry rest ih =>
      rw [List.map_cons, List.mem_cons, not_or] at absent
      rw [put, if_neg (Ne.symm absent.1), ih absent.2, List.cons_append]

theorem entries_insertAll {table : Table α} {entries : List (Text × α)}
    (distinct : ((table.entries ++ entries).map Prod.fst).Nodup) :
    (table.insertAll entries).entries = table.entries ++ entries := by
  induction entries generalizing table with
  | nil => exact (List.append_nil _).symm
  | cons entry rest ih =>
      have absent : entry.1 ∉ table.entries.map Prod.fst := by
        rw [List.map_append, List.nodup_append] at distinct
        intro present
        exact distinct.2.2 _ present _ List.mem_cons_self rfl
      have inserted : (table.insert entry.1 entry.2).entries = table.entries ++ [entry] :=
        put_of_not_mem absent
      rw [insertAll, List.foldl_cons, ← insertAll, ih, inserted, List.append_assoc]
      · rfl
      · rwa [inserted, List.append_assoc]

theorem ofList_entries (table : Table α) : ofList table.entries = table :=
  Table.ext (entries_insertAll table.distinct)

/-- A table whose values are kept by keys of their own is that of its values. -/
theorem ofList_values {table : Table α} {key : α → Text}
    (keys : ∀ entry ∈ table.entries, entry.1 = key entry.2) :
    ofList (table.values.map fun value => (key value, value)) = table := by
  have entries : (table.values.map fun value => (key value, value)) = table.entries := by
    rw [values, List.map_map]
    apply (List.map_congr_left _).trans (List.map_id _)
    intro entry member
    exact Prod.ext (keys entry member).symm rfl
  rw [entries, ofList_entries]

theorem mem_of_mem_values_ofList {items : List α} {key : α → Text} {value : α}
    (member : value ∈ (ofList (items.map fun item => (key item, item))).values) : value ∈ items := by
  obtain ⟨entry, listed, rfl⟩ := List.mem_map.mp member
  rcases mem_of_mem_insertAll listed with none | inserted
  · cases none
  · obtain ⟨item, found, rfl⟩ := List.mem_map.mp inserted
    exact found

theorem mem_map_values_ofList {items : List α} {key : α → Text} {name : Text} :
    name ∈ (ofList (items.map fun item => (key item, item))).values.map key ↔
      name ∈ items.map key := by
  have keys_eq : (ofList (items.map fun item => (key item, item))).values.map key =
      (ofList (items.map fun item => (key item, item))).keys := by
    rw [values, keys, List.map_map]
    apply List.map_congr_left
    intro entry member
    rcases mem_of_mem_insertAll member with none | inserted
    · cases none
    · obtain ⟨item, _, rfl⟩ := List.mem_map.mp inserted
      rfl
  rw [keys_eq, ofList, mem_keys_insertAll, List.map_map]
  simp [keys, empty, Function.comp_def]

theorem has_eq_true_iff {table : Table α} {key : Text} :
    table.has key = true ↔ key ∈ table.keys := by
  rw [has, find?, keys]
  induction table.entries with
  | nil => simp [at?]
  | cons entry rest ih =>
      obtain ⟨other, old⟩ := entry
      by_cases same : other = key
      · simp [at?, same]
      · have different : key ≠ other := fun equal => same equal.symm
        simp [at?, same, different, ih]

theorem find?_eq_none_iff {table : Table α} {key : Text} :
    table.find? key = none ↔ key ∉ table.keys := by
  rw [← has_eq_true_iff, has, Bool.not_eq_true, Option.isSome_eq_false_iff,
    Option.isNone_iff_eq_none]

theorem mem_entries_iff {table : Table α} {key : Text} {value : α} :
    (key, value) ∈ table.entries ↔ table.find? key = some value :=
  ⟨at?_of_mem table.distinct, mem_of_at?⟩

theorem find?_mapValues (table : Table α) (change : α → β) (key : Text) :
    (table.mapValues change).find? key = (table.find? key).map change := by
  obtain ⟨entries, distinct⟩ := table
  simp only [find?, mapValues]
  clear distinct
  induction entries with
  | nil => rfl
  | cons entry rest ih => by_cases same : entry.1 = key <;> simp [at?, same, ih]

theorem keys_mapValues (table : Table α) (change : α → β) :
    (table.mapValues change).keys = table.keys := by
  rw [keys, keys, mapValues, List.map_map]
  rfl

end Table

end ZodValidators
