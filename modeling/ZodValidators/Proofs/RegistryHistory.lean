import Mathlib.Data.Fin.Tuple.Basic
import ZodValidators.Scalars

/-!
# Registries with a history

Registries are made, copied and written to in any order. Each one answers by its lineage: what was
registered in it, and before that what the registry had that it is a copy of, down to the built-in
scalars. The latest registration of a name counts, and what is done with one registry never reaches
another one.
-/

set_option autoImplicit false

namespace ZodValidators.Registry

/-! ## Histories -/

/-- Something that is done when there are `count` registries, after which there are `next`. -/
inductive Action : Nat → Nat → Type where
  | create {count : Nat} : Action count (count + 1)
  | copy {count : Nat} (source : Fin count) : Action count (count + 1)
  | register {count : Nat} (registry : Fin count) (name zodType : Text) : Action count count
  | registerAll {count : Nat} (registry : Fin count) (mapping : List (Text × Text)) :
    Action count count

namespace Action

variable {count next : Nat}

def target? : Action count next → Option (Fin count)
  | .create | .copy _ => none
  | .register registry _ _ | .registerAll registry _ => some registry

/-- A registry that is there already keeps its number. -/
def keep : Action count next → Fin count → Fin next
  | .create | .copy _ => Fin.castSucc
  | .register _ _ _ | .registerAll _ _ => id

end Action

/-- Actions one after the other, and the number of registries behind them. -/
inductive History : Nat → Type where
  | start : History 0
  | after {count next : Nat} (earlier : History count) (action : Action count next) : History next

/-- The registrations of each registry's lineage, the latest one first. -/
abbrev Lineages (count : Nat) : Type := Fin count → List (Text × Text)

def builtInRegistrations : List (Text × Text) :=
  (builtIns.map fun (name, zodType) => (Text.ofString name, Text.ofString zodType)).reverse

/-- The lineage of a copy goes on with that of its source as it is now. -/
def Action.extend {count next : Nat} (lineages : Lineages count) :
    Action count next → Lineages next
  | .create => (Fin.snoc lineages builtInRegistrations : Lineages (count + 1))
  | .copy source => (Fin.snoc lineages (lineages source) : Lineages (count + 1))
  | .register target name zodType =>
    Function.update lineages target ((name, zodType) :: lineages target)
  | .registerAll target mapping =>
    Function.update lineages target (mapping.reverse ++ lineages target)

/-- All registrations that a registry has made or inherited, the latest one first. -/
def History.lineages : {count : Nat} → History count → Lineages count
  | _, .start => Fin.elim0
  | _, .after earlier action => action.extend earlier.lineages

/-! ## Tables that are written in place -/

/-- Registries that each hold a table of handlers. No two of them hold the same table. -/
structure Store (count : Nat) where
  /-- What stands in the tables; those from `size` on are not in use. -/
  tables : Nat → Registry
  size : Nat
  held : Fin count → Nat
  created : ∀ registry, held registry < size
  separate : Function.Injective held

namespace Store

variable {count next : Nat}

def empty : Store 0 where
  tables := fun _ => Registry.default
  size := 0
  held := Fin.elim0
  created := fun registry => registry.elim0
  separate := fun registry => registry.elim0

def handlers (store : Store count) (registry : Fin count) : Registry :=
  store.tables (store.held registry)

/-- A new registry holds a new table with the built-in scalars. -/
def create (store : Store count) : Store (count + 1) where
  tables := Function.update store.tables store.size Registry.default
  size := store.size + 1
  held := (Fin.snoc store.held store.size : Fin (count + 1) → Nat)
  created := by
    intro registry
    cases registry using Fin.lastCases with
    | last => simp
    | cast older => simpa using Nat.lt_succ_of_lt (store.created older)
  separate := by
    apply Fin.snoc_injective_of_injective store.separate
    rintro ⟨registry, same⟩
    exact absurd same (Nat.ne_of_lt (store.created registry))

def assign (store : Store count) (registry : Fin count) (table : Registry) : Store count where
  tables := Function.update store.tables store.size table
  size := store.size + 1
  held := Function.update store.held registry store.size
  created := by
    intro other
    by_cases same : other = registry
    · simp [same]
    · simpa [same] using Nat.lt_succ_of_lt (store.created other)
  separate := by
    -- Nobody holds the new table yet.
    have fresh (other : Fin count) : store.held other ≠ store.size :=
      Nat.ne_of_lt (store.created other)
    intro left right same
    by_cases changedLeft : left = registry <;> by_cases changedRight : right = registry
    · rw [changedLeft, changedRight]
    · simp [changedLeft, changedRight, (fresh right).symm] at same
    · simp [changedLeft, changedRight, fresh left] at same
    · simp only [ne_eq, changedLeft, changedRight, not_false_eq_true, Function.update_of_ne] at same
      exact store.separate same

def write (store : Store count) (registry : Fin count) (change : Registry → Registry) :
    Store count :=
  { store with
    tables := Function.update store.tables (store.held registry) (change (store.handlers registry)) }

/-- A copy is made as a new registry, whose table is then replaced. -/
def copy (store : Store count) (source : Fin count) : Store (count + 1) :=
  store.create.assign (Fin.last count) (store.create.handlers source.castSucc)

def after (store : Store count) : Action count next → Store next
  | .create => store.create
  | .copy source => store.copy source
  | .register registry name zodType => store.write registry (·.register name zodType)
  | .registerAll registry mapping => store.write registry (·.registerAll mapping)

variable (store : Store count)

theorem handlers_create_last : store.create.handlers (Fin.last count) = Registry.default := by
  simp [handlers, create]

theorem handlers_create_castSucc (registry : Fin count) :
    store.create.handlers registry.castSucc = store.handlers registry := by
  simp [handlers, create, Nat.ne_of_lt (store.created registry)]

theorem handlers_assign_self (registry : Fin count) (table : Registry) :
    (store.assign registry table).handlers registry = table := by
  simp [handlers, assign]

theorem handlers_assign_of_ne {registry other : Fin count} (different : other ≠ registry)
    (table : Registry) : (store.assign registry table).handlers other = store.handlers other := by
  simp [handlers, assign, different, Nat.ne_of_lt (store.created other)]

theorem handlers_write_self (registry : Fin count) (change : Registry → Registry) :
    (store.write registry change).handlers registry = change (store.handlers registry) := by
  simp [handlers, write]

/-- Writing reaches only one registry, because the others hold other tables. -/
theorem handlers_write_of_ne {registry other : Fin count} (different : other ≠ registry)
    (change : Registry → Registry) :
    (store.write registry change).handlers other = store.handlers other := by
  have apart : store.held other ≠ store.held registry := store.separate.ne different
  simp [handlers, write, apart]

theorem handlers_copy_last (source : Fin count) :
    (store.copy source).handlers (Fin.last count) = store.handlers source := by
  rw [copy, handlers_assign_self, handlers_create_castSucc]

theorem handlers_copy_castSucc (source registry : Fin count) :
    (store.copy source).handlers registry.castSucc = store.handlers registry := by
  rw [copy, handlers_assign_of_ne _ (Fin.castSucc_ne_last registry), handlers_create_castSucc]

/-- An action leaves the handlers of every registry that it does not write to. -/
theorem handlers_after_of_ne (action : Action count next) {registry : Fin count}
    (other : action.target? ≠ some registry) :
    (store.after action).handlers (action.keep registry) = store.handlers registry := by
  cases action with
  | create => exact store.handlers_create_castSucc registry
  | copy source => exact store.handlers_copy_castSucc source registry
  | register target name zodType =>
      have different : registry ≠ target := fun same => other (congrArg some same.symm)
      exact store.handlers_write_of_ne different (·.register name zodType)
  | registerAll target mapping =>
      have different : registry ≠ target := fun same => other (congrArg some same.symm)
      exact store.handlers_write_of_ne different (·.registerAll mapping)

end Store

/-! ## What a registry answers -/

theorem lookup_map {α β : Type} (change : α → β) (entries : List (Text × α)) (key : Text) :
    (entries.map fun entry => (entry.1, change entry.2)).lookup key =
      (entries.lookup key).map change := by
  induction entries with
  | nil => rfl
  | cons entry rest ih =>
      rw [List.map_cons, List.lookup_cons, List.lookup_cons, ih]
      split <;> rfl

theorem lookup_eq_none_iff_not_mem {α : Type} {entries : List (Text × α)} {key : Text} :
    entries.lookup key = none ↔ ∀ value, (key, value) ∉ entries := by
  rw [List.lookup_eq_none_iff]
  constructor
  · intro different value member
    exact absurd rfl (bne_iff_ne.mp (different _ member))
  · intro missing entry member
    apply bne_iff_ne.mpr
    intro same
    exact missing entry.2 (same ▸ member)

theorem zodType?_default (name : Text) :
    Registry.default.zodType? name = builtInRegistrations.lookup name := by
  rw [zodType?, default, Table.find?_ofList, ← lookup_map, ← List.map_reverse, List.map_map]
  rw [builtInRegistrations, ← List.map_reverse]
  rfl

theorem zodType?_registerAll_eq_lookup (registry : Registry) (mapping : List (Text × Text))
    (name : Text) :
    (registry.registerAll mapping).zodType? name =
      (mapping.reverse.lookup name).or (registry.zodType? name) := by
  rw [zodType?_registerAll_ofList, Table.find?_ofList]

/-- Every registry answers with the latest registration of its lineage. -/
def Store.Answers {count : Nat} (store : Store count) (lineages : Lineages count) : Prop :=
  ∀ registry name, (store.handlers registry).zodType? name = (lineages registry).lookup name

namespace Store.Answers

variable {count next : Nat} {store : Store count} {lineages : Lineages count}

theorem create (answers : store.Answers lineages) :
    store.create.Answers (Action.create.extend lineages) := by
  intro registry name
  cases registry using Fin.lastCases with
  | last => rw [handlers_create_last, zodType?_default, Action.extend, Fin.snoc_last]
  | cast older => rw [handlers_create_castSucc, answers, Action.extend, Fin.snoc_castSucc]

theorem copy (answers : store.Answers lineages) (source : Fin count) :
    (store.copy source).Answers ((Action.copy source).extend lineages) := by
  intro registry name
  cases registry using Fin.lastCases with
  | last => rw [handlers_copy_last, answers, Action.extend, Fin.snoc_last]
  | cast older => rw [handlers_copy_castSucc, answers, Action.extend, Fin.snoc_castSucc]

/-- Writing to a registry extends its lineage, if it does so to what the registry answers. -/
theorem write (answers : store.Answers lineages) {target : Fin count}
    {change : Registry → Registry} {latest : List (Text × Text)}
    (changed : ∀ (registry : Registry) (name : Text),
      (change registry).zodType? name = (latest.lookup name).or (registry.zodType? name)) :
    (store.write target change).Answers
      (Function.update lineages target (latest ++ lineages target)) := by
  intro registry name
  by_cases same : registry = target
  · rw [same, handlers_write_self, changed, answers, Function.update_self, List.lookup_append]
  · rw [handlers_write_of_ne store same, answers, Function.update_of_ne same]

theorem after (answers : store.Answers lineages) (action : Action count next) :
    (store.after action).Answers (action.extend lineages) := by
  cases action with
  | create => exact answers.create
  | copy source => exact answers.copy source
  | register target name zodType =>
      have single (registry : Registry) (other : Text) :
          (registry.register name zodType).zodType? other =
            ([(name, zodType)].lookup other).or (registry.zodType? other) :=
        zodType?_registerAll_eq_lookup registry [(name, zodType)] other
      exact answers.write single
  | registerAll target mapping =>
      exact answers.write fun registry name => zodType?_registerAll_eq_lookup registry mapping name

end Store.Answers

namespace History

variable {count next : Nat}

def store : {count : Nat} → History count → Store count
  | _, .start => Store.empty
  | _, .after earlier action => earlier.store.after action

def zodType? (history : History count) (registry : Fin count) (name : Text) : Option Text :=
  (history.store.handlers registry).zodType? name

def has (history : History count) (registry : Fin count) (name : Text) : Bool :=
  (history.store.handlers registry).has name

theorem answers (history : History count) : history.store.Answers history.lineages := by
  induction history with
  | start => exact fun registry => registry.elim0
  | after earlier action ih => exact ih.after action

theorem zodType?_eq_lookup (history : History count) (registry : Fin count) (name : Text) :
    history.zodType? registry name = (history.lineages registry).lookup name :=
  history.answers registry name

theorem has_eq_isSome (history : History count) (registry : Fin count) (name : Text) :
    history.has registry name = (history.zodType? registry name).isSome := by
  rw [has, Table.has, zodType?, Registry.zodType?, Option.isSome_map]

/-- A registry answers with the latest registration of a name in its lineage, and with nothing iff
there is none. An action changes no answer of a registry other than the one that it writes to. -/
theorem answers_by_lineage (history : History count) (registry : Fin count) :
    (∀ name, history.zodType? registry name = (history.lineages registry).lookup name) ∧
    (∀ name, history.zodType? registry name = none ↔
      ∀ zodType, (name, zodType) ∉ history.lineages registry) ∧
    (∀ name, history.has registry name = true ↔
      ∃ zodType, (name, zodType) ∈ history.lineages registry) ∧
    ∀ {next : Nat} (action : Action count next), action.target? ≠ some registry → ∀ name,
      (history.after action).zodType? (action.keep registry) name =
          history.zodType? registry name ∧
        (history.after action).has (action.keep registry) name = history.has registry name := by
  have absent (name : Text) : history.zodType? registry name = none ↔
      ∀ zodType, (name, zodType) ∉ history.lineages registry := by
    rw [zodType?_eq_lookup, lookup_eq_none_iff_not_mem]
  refine ⟨history.zodType?_eq_lookup registry, absent, ?_, ?_⟩
  · intro name
    rw [has_eq_isSome, ← Option.ne_none_iff_isSome, ne_eq, absent, not_forall_not]
  · intro next action other name
    have kept := history.store.handlers_after_of_ne action other
    exact ⟨congrArg (·.zodType? name) kept, congrArg (·.has name) kept⟩

/-- A copy of a copy answers as its source did then, whatever is registered later. -/
example :
    let first : History 1 := History.start.after .create |>.after (.register 0 "ID" "number")
    let second : History 2 := first.after (.copy 0) |>.after (.registerAll 0 [("ID", "bigint")])
    let third : History 3 := second.after (.copy 1) |>.after (.register 1 "Email" "string")
    third.zodType? 0 "ID" = some "bigint" ∧ third.zodType? 2 "ID" = some "number" ∧
      third.zodType? 2 "Email" = none ∧ third.zodType? 2 "Int" = some "number" := by
  decide +kernel

end History

end ZodValidators.Registry
