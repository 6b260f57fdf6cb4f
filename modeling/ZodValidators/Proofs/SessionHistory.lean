import Mathlib.Data.List.Basic
import ZodValidators.Session

/-!
# Histories of sessions

What becomes of the schema of a session can be read off the history. A generator applies the filters
once, when it first looks at the schema: those that were added by then, to what was added by then.
Whatever is added later stays as it is until the next generator looks for the first time.
-/

set_option autoImplicit false

namespace ZodValidators.Session

/-! ## Events -/

/-- What happens in a session: a change, or a generator that looks at the schema, with or without
being asked for declarations. -/
inductive Event where
  | change (change : Change)
  | look (generator : Nat)
  | ask (generator : Nat) (request : Request)

namespace Event

def reader? : Event → Option Nat
  | .change _ => none
  | .look generator | .ask generator _ => some generator

def addedFilter? : Event → Option NameFilter
  | .change (.addFilter filter) => some filter
  | _ => none

/-- The schema with what the event adds to it. -/
def extend (schema : Schema) : Event → Schema
  | .change (.declareScalar name) => schema.declareScalar name
  | .change (.putEnum key enumType) => schema.putEnum key enumType
  | .change (.putInput key inputType) => schema.putInput key inputType
  | .change (.addOperation operation) => schema.addOperation operation
  | _ => schema

theorem extend_of_reader? {schema : Schema} {generator : Nat} (event : Event)
    (reader : event.reader? = some generator) : event.extend schema = schema := by
  cases event with
  | change => cases reader
  | look | ask => rfl

end Event

def addedFilters (events : List Event) : List NameFilter :=
  events.filterMap Event.addedFilter?

/-- The schema with all that is added to it, without any filter. -/
def extendAll (schema : Schema) (events : List Event) : Schema :=
  events.foldl Event.extend schema

def step (session : Session) : Event → Session
  | .change change => session.apply change
  | .look generator => session.look generator
  | .ask generator request => (session.ask generator request).2

def run (session : Session) (events : List Event) : Session :=
  events.foldl step session

def isPrimed (session : Session) (generator : Nat) : Bool :=
  session.generators[generator]?.any Generator.primed

/-- Every generator that looks in the events has looked before them. -/
def NoFirstLook (session : Session) (events : List Event) : Prop :=
  ∀ event ∈ events, ∀ generator, event.reader? = some generator → session.isPrimed generator = true

/-- Two sessions that differ at most in their schema and in who has looked at it. -/
structure AgreesOutsideSchema (left right : Session) : Prop where
  options : left.options = right.options
  filters : left.filters = right.filters
  headers : left.headers = right.headers
  registry : left.registry = right.registry
  size : left.generators.length = right.generators.length
  registries : ∀ generator, left.registryOf generator = right.registryOf generator

variable {session : Session} {generator : Nat}

/-! ## One event -/

theorem step_of_reader? {event : Event} (reads : event.reader? = some generator) :
    session.step event = session.look generator := by
  cases event with
  | change => cases reads
  | look | ask => cases reads; rfl

theorem lt_length_of_isPrimed (primed : session.isPrimed generator = true) :
    generator < session.generators.length := by
  by_contra absent
  rw [isPrimed, List.getElem?_eq_none (Nat.not_lt.mp absent)] at primed
  cases primed

theorem look_of_isPrimed (primed : session.isPrimed generator = true) :
    session.look generator = session := by
  rw [look]
  split
  · next found => simp [isPrimed, found] at primed
  · rfl

theorem look_of_not_isPrimed (made : generator < session.generators.length)
    (fresh : session.isPrimed generator = false) :
    session.look generator = { session with
      schema := NameFilter.applyAll session.filters session.schema
      generators := session.generators.set generator {
        registry := session.registryOf generator
        primed := true } } := by
  have found := List.getElem?_eq_getElem made
  generalize session.generators[generator] = kept at found
  obtain ⟨registry, primed⟩ := kept
  have unprimed : primed = false := by simpa [isPrimed, found] using fresh
  subst primed
  rw [look, found]
  simp only [registryOf, found, Option.map_some, Option.getD_some]

theorem look_of_not_made (absent : session.generators.length ≤ generator) :
    session.look generator = session := by
  rw [look, List.getElem?_eq_none absent]

/-- Looking changes nothing but the schema. -/
theorem agreesOutsideSchema_look (session : Session) (generator : Nat) :
    (session.look generator).AgreesOutsideSchema session := by
  rcases Nat.lt_or_ge generator session.generators.length with made | absent
  · cases primed : session.isPrimed generator with
    | true =>
        rw [look_of_isPrimed primed]
        exact ⟨rfl, rfl, rfl, rfl, rfl, fun _ => rfl⟩
    | false =>
        rw [look_of_not_isPrimed made primed]
        refine ⟨rfl, rfl, rfl, rfl, List.length_set, ?_⟩
        intro other
        by_cases same : generator = other
        · subst other
          simp [registryOf, made]
        · simp only [registryOf, List.getElem?_set_ne same]
  · rw [look_of_not_made absent]
    exact ⟨rfl, rfl, rfl, rfl, rfl, fun _ => rfl⟩

theorem isPrimed_look (made : generator < session.generators.length) (reader : Nat) :
    (session.look reader).isPrimed generator =
      (session.isPrimed generator || reader = generator) := by
  by_cases own : reader = generator
  · subst reader
    cases primed : session.isPrimed generator with
    | true => simp [look_of_isPrimed primed, primed]
    | false => simp [look_of_not_isPrimed made primed, isPrimed, made]
  · rcases Nat.lt_or_ge reader session.generators.length with readerMade | absent
    · cases primed : session.isPrimed reader with
      | true => simp [look_of_isPrimed primed, own]
      | false =>
          simp [look_of_not_isPrimed readerMade primed, isPrimed, own, List.getElem?_set_ne own]
    · simp [look_of_not_made absent, own]

theorem filters_step (session : Session) (event : Event) :
    (session.step event).filters = session.filters ++ event.addedFilter?.toList := by
  cases reader : event.reader? with
  | some generator =>
      have unchanged : event.addedFilter? = none := by
        cases event with
        | change => cases reader
        | look | ask => rfl
      rw [step_of_reader? reader, (session.agreesOutsideSchema_look generator).filters, unchanged]
      exact (List.append_nil _).symm
  | none =>
      cases event with
      | change change => cases change <;> simp [step, apply, Event.addedFilter?]
      | look | ask => cases reader

theorem schema_step_of_reader?_eq_none {event : Event} (noReader : event.reader? = none) :
    (session.step event).schema = event.extend session.schema := by
  cases event with
  | change change => cases change <;> rfl
  | look | ask => cases noReader

theorem length_generators_le_step (session : Session) (event : Event) :
    session.generators.length ≤ (session.step event).generators.length := by
  cases reader : event.reader? with
  | some generator =>
      rw [step_of_reader? reader]
      exact Nat.le_of_eq (session.agreesOutsideSchema_look generator).size.symm
  | none =>
      cases event with
      | change change => cases change <;> simp [step, apply]
      | look | ask => cases reader

theorem isPrimed_step (made : generator < session.generators.length) (event : Event) :
    (session.step event).isPrimed generator =
      (session.isPrimed generator || event.reader? = some generator) := by
  cases reader : event.reader? with
  | some reading => simp [step_of_reader? reader, isPrimed_look made]
  | none =>
      cases event with
      | change change =>
          cases change <;> simp [step, apply, isPrimed, List.getElem?_append_left made]
      | look | ask => cases reader

/-! ## Whole histories -/

theorem run_append (session : Session) (events others : List Event) :
    session.run (events ++ others) = (session.run events).run others :=
  List.foldl_append

theorem run_cons (session : Session) (event : Event) (events : List Event) :
    session.run (event :: events) = (session.step event).run events := rfl

theorem filters_run (session : Session) (events : List Event) :
    (session.run events).filters = session.filters ++ addedFilters events := by
  induction events generalizing session with
  | nil => exact (List.append_nil _).symm
  | cons event rest ih =>
      rw [run_cons, ih, filters_step, addedFilters, addedFilters, List.append_assoc]
      cases added : event.addedFilter? <;> simp [added]

theorem length_generators_le_run (session : Session) (events : List Event) :
    session.generators.length ≤ (session.run events).generators.length := by
  induction events generalizing session with
  | nil => exact Nat.le_refl _
  | cons event rest ih => exact Nat.le_trans (session.length_generators_le_step event) (ih _)

/-- A generator has looked at the schema exactly when an event of the history made it do so. -/
theorem isPrimed_run (made : generator < session.generators.length) (events : List Event) :
    (session.run events).isPrimed generator =
      (session.isPrimed generator || events.any fun event => event.reader? = some generator) := by
  induction events generalizing session with
  | nil => simp [run]
  | cons event rest ih =>
      have still := Nat.lt_of_lt_of_le made (session.length_generators_le_step event)
      rw [run_cons, ih still, isPrimed_step made, List.any_cons, Bool.or_assoc]

/-- While no generator looks for the first time, the schema is what was there with all that is
added. -/
theorem schema_run_of_noFirstLook {events : List Event} (settled : session.NoFirstLook events) :
    (session.run events).schema = extendAll session.schema events := by
  induction events generalizing session with
  | nil => rfl
  | cons event rest ih =>
      have stillSettled : (session.step event).NoFirstLook rest := by
        intro later member reader reads
        have primed := settled later (List.mem_cons_of_mem _ member) reader reads
        rw [isPrimed_step (lt_length_of_isPrimed primed), primed, Bool.true_or]
      have extended : (session.step event).schema = event.extend session.schema := by
        cases reader : event.reader? with
        | none => exact schema_step_of_reader?_eq_none reader
        | some reading =>
            have primed := settled event List.mem_cons_self reading reader
            rw [step_of_reader? reader, look_of_isPrimed primed, event.extend_of_reader? reader]
      rw [run_cons, ih stillSettled, extended]
      rfl

/-! ## The time of one generator -/

theorem run_makeGenerator (session : Session) (earlier : List Event) :
    session.run (earlier ++ [.change .makeGenerator]) =
      (session.run earlier).apply .makeGenerator := by
  rw [run_append]
  rfl

theorem lt_length_makeGenerator (session : Session) :
    session.generators.length < (session.apply .makeGenerator).generators.length := by
  simp [apply]

theorem isPrimed_makeGenerator (session : Session) :
    (session.apply .makeGenerator).isPrimed session.generators.length = false := by
  simp [apply, isPrimed, newGenerator]

/-- A generator has looked exactly when an event since it was made made it do so. -/
theorem isPrimed_run_makeGenerator (session : Session) (events : List Event) :
    ((session.apply .makeGenerator).run events).isPrimed session.generators.length =
      events.any fun event => event.reader? = some session.generators.length := by
  rw [isPrimed_run session.lt_length_makeGenerator, isPrimed_makeGenerator, Bool.false_or]

/-- Where only the newest generator is read, no generator looks for the first time but this one. -/
theorem noFirstLook_of_newest {before behind : List Event} {first : Event}
    (unread : ∀ event ∈ before, event.reader? = none)
    (reader : first.reader? = some session.generators.length)
    (alone : ∀ event ∈ behind, ∀ generator, event.reader? = some generator →
      generator = session.generators.length) :
    (session.apply .makeGenerator).NoFirstLook before ∧
      ((session.apply .makeGenerator).run (before ++ [first])).NoFirstLook behind := by
  constructor
  · intro event member generator reads
    rw [unread event member] at reads
    cases reads
  · intro event member generator reads
    rw [alone event member generator reads, isPrimed_run_makeGenerator, List.any_eq_true]
    exact ⟨first, List.mem_append_right _ List.mem_cons_self, decide_eq_true reader⟩

/-- The first look applies the filters that were there when the generator was made, and those that
were added since then. -/
theorem schema_look_run_makeGenerator {events : List Event}
    (unread : ∀ event ∈ events, event.reader? ≠ some session.generators.length) :
    (((session.apply .makeGenerator).run events).look session.generators.length).schema =
      NameFilter.applyAll (session.filters ++ addedFilters events)
        ((session.apply .makeGenerator).run events).schema := by
  have made := Nat.lt_of_lt_of_le session.lt_length_makeGenerator
    (length_generators_le_run _ events)
  have fresh : ((session.apply .makeGenerator).run events).isPrimed session.generators.length =
      false := by
    rw [isPrimed_run_makeGenerator, List.any_eq_false]
    intro event member
    simpa using unread event member
  have filters : ((session.apply .makeGenerator).run events).filters =
      session.filters ++ addedFilters events := filters_run _ events
  rw [look_of_not_isPrimed made fresh, filters]

/-- All that happens to the schema while only one generator looks for the first time. -/
theorem schema_run_makeGenerator {before behind : List Event} {first : Event}
    (settled : (session.apply .makeGenerator).NoFirstLook before)
    (reader : first.reader? = some session.generators.length)
    (settledAgain :
      ((session.apply .makeGenerator).run (before ++ [first])).NoFirstLook behind) :
    ((session.apply .makeGenerator).run (before ++ first :: behind)).schema =
      extendAll
        (NameFilter.applyAll (session.filters ++ addedFilters before)
          (extendAll session.schema before))
        behind := by
  have unread : ∀ event ∈ before, event.reader? ≠ some session.generators.length := by
    intro event member looks
    have primed := settled event member _ looks
    rw [isPrimed_makeGenerator] at primed
    cases primed
  have added : ((session.apply .makeGenerator).run before).schema =
      extendAll session.schema before := schema_run_of_noFirstLook settled
  have looked : ((session.apply .makeGenerator).run (before ++ [first])).schema =
      NameFilter.applyAll (session.filters ++ addedFilters before)
        (extendAll session.schema before) := by
    rw [run_append, ← added, ← schema_look_run_makeGenerator unread, ← step_of_reader? reader]
    rfl
  rw [← List.singleton_append, ← List.append_assoc, run_append,
    schema_run_of_noFirstLook settledAgain, looked]

/-- A generator that was just made has not looked at the schema. Its first look applies the filters
that were added by then to the schema as it stands, and no later one changes anything. So if no
other generator looks for the first time meanwhile, the schema has first all that is added, then
what the filters leave of it, and from then on this with all that is added later. A generator that
is asked looks first and builds its answer from what it then sees, whether it succeeds or not, and
nothing but the schema changes. -/
theorem filters_applied_once (session : Session) (earlier events : List Event) :
    let newest := (session.run earlier).generators.length
    let made := session.run (earlier ++ [.change .makeGenerator])
    let current := made.run events
    ((∃ event ∈ events, event.reader? = some newest) → current.look newest = current) ∧
    ((∀ event ∈ events, event.reader? ≠ some newest) →
      (current.look newest).schema =
        NameFilter.applyAll (session.filters ++ addedFilters (earlier ++ events))
          current.schema) ∧
    (made.NoFirstLook events →
      current.schema = extendAll (session.run earlier).schema events) ∧
    (∀ before first behind, events = before ++ first :: behind →
      made.NoFirstLook before → first.reader? = some newest →
      (made.run (before ++ [first])).NoFirstLook behind →
      current.schema =
        extendAll
          (NameFilter.applyAll (session.filters ++ addedFilters (earlier ++ before))
            (extendAll (session.run earlier).schema before))
          behind) ∧
    (∀ request,
      current.ask newest request =
        ((current.look newest).build newest request, current.look newest)) ∧
    (current.look newest).AgreesOutsideSchema current := by
  intro newest made current
  have made_eq : made = (session.run earlier).apply .makeGenerator :=
    session.run_makeGenerator earlier
  have current_eq : current = ((session.run earlier).apply .makeGenerator).run events :=
    congrArg (run · events) made_eq
  have filters (others : List Event) : session.filters ++ addedFilters (earlier ++ others) =
      (session.run earlier).filters ++ addedFilters others := by
    rw [filters_run, addedFilters, List.filterMap_append, List.append_assoc]
    rfl
  refine ⟨?_, ?_, ?_, ?_, fun _ => rfl, current.agreesOutsideSchema_look newest⟩
  · intro ⟨event, member, reader⟩
    apply look_of_isPrimed
    rw [current_eq, isPrimed_run_makeGenerator, List.any_eq_true]
    exact ⟨event, member, decide_eq_true reader⟩
  · intro unread
    rw [current_eq, filters]
    exact schema_look_run_makeGenerator unread
  · intro settled
    rw [made_eq] at settled
    rw [current_eq]
    exact schema_run_of_noFirstLook settled
  · intro before first behind split settled reader settledAgain
    rw [made_eq] at settled settledAgain
    rw [current_eq, split, filters]
    exact schema_run_makeGenerator settled reader settledAgain

/-- A session of one generator, which looks at the schema between two changes. -/
def oldSession : Session := { schema := {} }

def oldEvents : List Event := [
  .change (.putEnum "Role" { name := "Role" }),
  .change (.putEnum "OldRole" { name := "OldRole" }),
  .change (.addFilter { excludePrefix := "Old" })]

def laterEvents : List Event := [
  .change (.putEnum "OldSort" { name := "OldSort" }),
  .ask 0 .enums]

theorem filters_applied_once_oldSession :
    (oldSession.run [.change .makeGenerator]).NoFirstLook oldEvents ∧
    ((oldSession.run [.change .makeGenerator]).run (oldEvents ++ [.look 0])).NoFirstLook
      laterEvents ∧
    ((oldSession.run [.change .makeGenerator]).run
        (oldEvents ++ .look 0 :: laterEvents)).schema =
      extendAll
        (NameFilter.applyAll (addedFilters oldEvents) (extendAll oldSession.schema oldEvents))
        laterEvents ∧
    ((oldSession.run [.change .makeGenerator]).run
        (oldEvents ++ .look 0 :: laterEvents)).schema.enums.keys = ["Role", "OldSort"] := by
  have unread : ∀ event ∈ oldEvents, event.reader? = none := by simp [oldEvents, Event.reader?]
  have alone : ∀ event ∈ laterEvents, ∀ generator, event.reader? = some generator →
      generator = oldSession.generators.length := by
    simp [laterEvents, Event.reader?, oldSession]
  have reader : (Event.look 0).reader? = some oldSession.generators.length := rfl
  obtain ⟨settled, settledAgain⟩ := noFirstLook_of_newest unread reader alone
  obtain ⟨_, _, _, once, _⟩ :=
    filters_applied_once oldSession [] (oldEvents ++ .look 0 :: laterEvents)
  exact ⟨settled, settledAgain,
    once oldEvents (.look 0) laterEvents rfl settled reader settledAgain, by decide +kernel⟩

end ZodValidators.Session
