import Mathlib.Data.List.Nodup
import ZodValidators.ModuleText
import ZodValidators.Proofs.SessionHistory

/-!
# Frozen scalars

A registry is an object that is written in place, and one of them is given to every generator of a
session. A generator copies it before it adds the scalars of the options, so it keeps what it knew
when it was made: whatever is registered or chosen later reaches only the generators made after it,
and no generator writes to a registry that is not its own.
-/

set_option autoImplicit false

namespace ZodValidators

def Schema.answer (options : Options) (registry : Registry) (schema : Schema) :
    Session.Request → Except FieldFailure (List Section)
  | .enums =>
    .ok [{ title := DeclarationKind.enumeration.title
           declarations := schema.enumDeclarations options }]
  | .inputs => do
    let declarations ← schema.inputDeclarations options registry
    return [{ title := DeclarationKind.input.title, declarations }]
  | .arguments => do
    let declarations ← schema.argumentDeclarations options registry
    return [{ title := DeclarationKind.arguments.title, declarations }]
  | .sections => schema.sections options registry

namespace Session

/-! ## Calls -/

/-- What is done with a session and with the registry that is given to its generators. -/
inductive Call where
  | event (event : Event)
  | registerAll (mapping : List (Text × Text))
  | render (generator : Nat) (template : List Char)

def rendered (options : Options) (headers : List Text) (template : List Char) :
    Except FieldFailure (List Section) → Except (FieldFailure ⊕ Template.Fault) Text
  | .ok sections => (ModuleText.render options headers template sections).mapError .inr
  | .error failure => .error (.inl failure)

def render (session : Session) (generator : Nat) (template : List Char) :
    Except (FieldFailure ⊕ Template.Fault) Text × Session :=
  let (answer, session) := session.ask generator .sections
  (rendered session.options session.headers template answer, session)

namespace Call

def registrations : Call → List (Text × Text)
  | .event (.change (.registerScalar name zodType)) => [(name, zodType)]
  | .registerAll mapping => mapping
  | _ => []

def changeOptions (options : Options) : Call → Options
  | .event (.change (.setOptions change)) => change options
  | _ => options

def constructed (session : Session) : Call → List Registry
  | .event (.change .makeGenerator) => [session.newGenerator.registry]
  | _ => []

end Call

def registered (calls : List Call) : List (Text × Text) := calls.flatMap Call.registrations

def changeAllOptions (options : Options) (calls : List Call) : Options :=
  calls.foldl Call.changeOptions options

def after (session : Session) : Call → Session
  | .event event => session.step event
  | .registerAll mapping =>
    { session with registry := session.registry.map (·.registerAll mapping) }
  | .render generator template => (session.render generator template).2

def afterAll (session : Session) (calls : List Call) : Session := calls.foldl after session

def registries (session : Session) : List Registry := session.generators.map Generator.registry

variable {session : Session}

/-! ## One call -/

theorem registryOf_eq (session : Session) (generator : Nat) :
    session.registryOf generator = (session.registries[generator]?).getD Registry.default := by
  rw [registryOf, registries, List.getElem?_map]

theorem length_registries (session : Session) :
    session.registries.length = session.generators.length := List.length_map _

theorem AgreesOutsideSchema.registries_eq {left right : Session}
    (agrees : left.AgreesOutsideSchema right) : left.registries = right.registries := by
  apply List.ext_getElem
  · rw [length_registries, length_registries, agrees.size]
  · intro generator inLeft inRight
    have same := agrees.registries generator
    rw [registryOf_eq, registryOf_eq, List.getElem?_eq_getElem inLeft,
      List.getElem?_eq_getElem inRight] at same
    exact same

/-- What a call does to the registries and the options of a session. -/
structure Follows (session next : Session) (call : Call) : Prop where
  registry : next.registry = session.registry.map (·.registerAll call.registrations)
  options : next.options = call.changeOptions session.options
  registries : next.registries = session.registries ++ call.constructed session

theorem follows_after (session : Session) (call : Call) :
    session.Follows (session.after call) call := by
  have registry : session.registry = session.registry.map (·.registerAll []) :=
    Option.map_id_apply.symm
  have registries : session.registries = session.registries ++ [] := (List.append_nil _).symm
  cases call with
  | event event =>
      cases event with
      | change change =>
          cases change with
          | registerScalar => exact ⟨rfl, rfl, registries⟩
          | makeGenerator => exact ⟨registry, rfl, List.map_append⟩
          | _ => exact ⟨registry, rfl, registries⟩
      | look generator | ask generator =>
          have agrees := session.agreesOutsideSchema_look generator
          exact ⟨agrees.registry.trans registry, agrees.options,
            agrees.registries_eq.trans registries⟩
  | registerAll => exact ⟨rfl, rfl, registries⟩
  | render generator =>
      have agrees := session.agreesOutsideSchema_look generator
      exact ⟨agrees.registry.trans registry, agrees.options,
        agrees.registries_eq.trans registries⟩

/-! ## Many calls -/

theorem afterAll_append (session : Session) (calls others : List Call) :
    session.afterAll (calls ++ others) = (session.afterAll calls).afterAll others :=
  List.foldl_append

theorem registry_afterAll (session : Session) (calls : List Call) :
    (session.afterAll calls).registry =
      session.registry.map (·.registerAll (registered calls)) := by
  induction calls generalizing session with
  | nil => exact Option.map_id_apply.symm
  | cons call rest ih =>
      rw [afterAll, List.foldl_cons, ← afterAll, ih, (session.follows_after call).registry,
        Option.map_map]
      congr 1
      funext registry
      exact (List.foldl_append).symm

theorem options_afterAll (session : Session) (calls : List Call) :
    (session.afterAll calls).options = changeAllOptions session.options calls := by
  induction calls generalizing session with
  | nil => rfl
  | cons call rest ih =>
      rw [afterAll, List.foldl_cons, ← afterAll, ih, (session.follows_after call).options]
      rfl

/-- Registries of generators are only added. -/
theorem registries_prefix_afterAll (session : Session) (calls : List Call) :
    session.registries <+: (session.afterAll calls).registries := by
  induction calls generalizing session with
  | nil => exact List.prefix_rfl
  | cons call rest ih =>
      have added : session.registries <+: (session.after call).registries := by
        rw [(session.follows_after call).registries]
        exact List.prefix_append _ _
      exact added.trans (ih _)

theorem registryOf_afterAll {generator : Nat} (made : generator < session.generators.length)
    (calls : List Call) :
    (session.afterAll calls).registryOf generator = session.registryOf generator := by
  obtain ⟨more, split⟩ := session.registries_prefix_afterAll calls
  rw [← length_registries] at made
  rw [registryOf_eq, registryOf_eq, ← split, List.getElem?_append_left made]

/-! ## Objects -/

/-- Registries as objects that are written in place. A reference to one is its position. -/
structure Objects where
  registries : List Registry
  passed : Option Nat
  held : List Nat

namespace Objects

def references (objects : Objects) : List Nat := objects.passed.toList ++ objects.held

def read (objects : Objects) (reference : Nat) : Registry :=
  (objects.registries[reference]?).getD Registry.default

def write (objects : Objects) (reference : Nat) (change : Registry → Registry) : Objects :=
  { objects with registries := objects.registries.modify reference change }

def writePassed (objects : Objects) (change : Registry → Registry) : Objects :=
  match objects.passed with
  | some reference => objects.write reference change
  | none => objects

/-- What a new generator starts from: a copy of the registry that it is given, or the built-in
scalars. -/
def start (objects : Objects) : Registry :=
  (objects.passed.map objects.read).getD Registry.default

/-- A new generator holds an object of its own and registers the scalars there. -/
def construct (objects : Objects) (scalars : List (Text × Text)) : Objects :=
  let created := { objects with
    registries := objects.registries ++ [objects.start]
    held := objects.held ++ [objects.registries.length] }
  created.write objects.registries.length (·.registerAll scalars)

/-- The objects after a call, when the options are these. -/
def after (objects : Objects) (options : Options) : Call → Objects
  | .event (.change (.registerScalar name zodType)) =>
    objects.writePassed (·.register name zodType)
  | .registerAll mapping => objects.writePassed (·.registerAll mapping)
  | .event (.change .makeGenerator) => objects.construct options.scalars
  | _ => objects

def afterAll (objects : Objects) (session : Session) : List Call → Objects
  | [] => objects
  | call :: rest => (objects.after session.options call).afterAll (session.after call) rest

/-- The session's registries are what its objects hold, and no two references are to one object. -/
structure Shows (objects : Objects) (session : Session) : Prop where
  passed : objects.passed.map objects.read = session.registry
  held : objects.held.map objects.read = session.registries
  created : ∀ reference ∈ objects.references, reference < objects.registries.length
  separate : objects.references.Nodup

variable {objects : Objects}

theorem read_write_self {reference : Nat} (created : reference < objects.registries.length)
    (change : Registry → Registry) :
    (objects.write reference change).read reference = change (objects.read reference) := by
  simp [read, write, List.getElem?_eq_getElem created]

theorem read_write_of_ne {reference other : Nat} (different : reference ≠ other)
    (change : Registry → Registry) :
    (objects.write reference change).read other = objects.read other := by
  simp [read, write, different]

theorem Shows.congr {other : Session} (shown : objects.Shows session)
    (registry : other.registry = session.registry)
    (registries : other.registries = session.registries) : objects.Shows other where
  passed := shown.passed.trans registry.symm
  held := shown.held.trans registries.symm
  created := shown.created
  separate := shown.separate

/-- Writing to the registry that is given to generators reaches no generator. -/
theorem Shows.writePassed {other : Session} (shown : objects.Shows session)
    {change : Registry → Registry} (registry : other.registry = session.registry.map change)
    (registries : other.registries = session.registries) :
    (objects.writePassed change).Shows other := by
  obtain ⟨passed, held, created, separate⟩ := shown
  rw [Objects.writePassed]
  cases reference? : objects.passed with
  | none =>
      refine ⟨?_, held.trans registries.symm, created, separate⟩
      rw [registry, ← passed, reference?]
      rfl
  | some reference =>
      have listed : reference ∈ objects.references := by simp [references, reference?]
      have apart : ∀ other ∈ objects.held, reference ≠ other := by
        simp only [references, reference?] at separate
        exact fun other member same => (List.nodup_cons.mp separate).1 (same ▸ member)
      have written := read_write_self (created reference listed) change
      have samePassed : (objects.write reference change).passed = some reference := reference?
      refine ⟨?_, ?_, ?_, separate⟩
      · rw [registry, ← passed, samePassed, reference?]
        exact congrArg some written
      · rw [registries, ← held]
        exact List.map_congr_left fun other member => read_write_of_ne (apart other member) change
      · intro other member
        have sameLength : (objects.write reference change).registries.length =
            objects.registries.length := List.length_modify ..
        exact sameLength ▸ created other member

theorem references_construct (objects : Objects) (scalars : List (Text × Text)) :
    (objects.construct scalars).references =
      objects.references ++ [objects.registries.length] :=
  (List.append_assoc _ _ _).symm

theorem length_construct (objects : Objects) (scalars : List (Text × Text)) :
    (objects.construct scalars).registries.length = objects.registries.length + 1 := by
  simp [construct, write]

theorem read_construct_self (objects : Objects) (scalars : List (Text × Text)) :
    (objects.construct scalars).read objects.registries.length =
      objects.start.registerAll scalars := by
  simp [construct, read, write]

theorem read_construct_of_lt {reference : Nat} (created : reference < objects.registries.length)
    (scalars : List (Text × Text)) :
    (objects.construct scalars).read reference = objects.read reference := by
  simp [construct, read, write, List.getElem?_append_left created, (Nat.ne_of_lt created).symm]

/-- A new generator writes to no registry that was there. -/
theorem Shows.construct (shown : objects.Shows session) :
    (objects.construct session.options.scalars).Shows (session.apply .makeGenerator) := by
  obtain ⟨passed, held, created, separate⟩ := shown
  have kept : ∀ reference ∈ objects.references,
      (objects.construct session.options.scalars).read reference = objects.read reference :=
    fun reference member => read_construct_of_lt (created reference member) _
  have start : objects.start = session.registry.getD Registry.default :=
    congrArg (·.getD Registry.default) passed
  have fresh : objects.registries.length ∉ objects.references :=
    fun member => Nat.lt_irrefl _ (created _ member)
  refine ⟨?_, ?_, ?_, ?_⟩
  · have same : objects.passed.map (objects.construct session.options.scalars).read =
        objects.passed.map objects.read := by
      apply Option.map_congr
      intro reference member
      exact kept reference (List.mem_append_left _ (Option.mem_toList.mpr member))
    exact same.trans passed
  · have same : objects.held.map (objects.construct session.options.scalars).read =
        objects.held.map objects.read :=
      List.map_congr_left fun reference member => kept reference (List.mem_append_right _ member)
    have newest : (objects.construct session.options.scalars).read objects.registries.length =
        session.newGenerator.registry := by
      rw [read_construct_self, start]
      rfl
    calc
      (objects.construct session.options.scalars).held.map
          (objects.construct session.options.scalars).read
        = objects.held.map (objects.construct session.options.scalars).read ++
            [(objects.construct session.options.scalars).read objects.registries.length] :=
          List.map_append
      _ = session.registries ++ [session.newGenerator.registry] := by rw [same, held, newest]
      _ = (session.apply .makeGenerator).registries :=
          (session.follows_after (.event (.change .makeGenerator))).registries.symm
  · intro reference member
    rw [references_construct, List.mem_append, List.mem_singleton] at member
    rw [length_construct]
    rcases member with old | rfl
    · exact Nat.lt_succ_of_lt (created reference old)
    · exact Nat.lt_succ_self _
  · rw [references_construct, ← List.concat_eq_append]
    exact separate.concat fresh

theorem Shows.after (shown : objects.Shows session) (call : Call) :
    (objects.after session.options call).Shows (session.after call) := by
  have looked (generator : Nat) : objects.Shows (session.look generator) :=
    let agrees := session.agreesOutsideSchema_look generator
    shown.congr agrees.registry agrees.registries_eq
  cases call with
  | event event =>
      cases event with
      | change change =>
          cases change with
          | registerScalar => exact shown.writePassed rfl rfl
          | makeGenerator => exact shown.construct
          | _ => exact shown.congr rfl rfl
      | look generator | ask generator => exact looked generator
  | registerAll => exact shown.writePassed rfl rfl
  | render generator => exact looked generator

theorem Shows.afterAll (shown : objects.Shows session) (calls : List Call) :
    (objects.afterAll session calls).Shows (session.afterAll calls) := by
  induction calls generalizing objects session with
  | nil => exact shown
  | cons call rest ih => exact ih (shown.after call)

end Objects

def objects (session : Session) : Objects where
  registries := session.registry.toList ++ session.registries
  passed := session.registry.map fun _ => 0
  held := List.range' session.registry.toList.length session.registries.length

theorem references_objects (session : Session) :
    session.objects.references = List.range session.objects.registries.length := by
  cases given : session.registry with
  | none => simp [objects, Objects.references, given, List.range_eq_range']
  | some registry =>
      simp [objects, Objects.references, given, List.range_eq_range',
        List.range'_succ]

theorem shows_objects (session : Session) : session.objects.Shows session where
  passed := by
    cases given : session.registry with
    | none => simp [objects, given]
    | some registry => simp [objects, Objects.read, given]
  held := by
    apply List.ext_getElem
    · simp [objects]
    · intro generator inHeld inRegistries
      simp [objects, Objects.read, inRegistries]
  created := by
    intro reference member
    rw [references_objects] at member
    exact List.mem_range.mp member
  separate := by
    rw [references_objects]
    exact List.nodup_range

/-! ## The scalars of one generator -/

theorem build_eq_answer (session : Session) (generator : Nat) (request : Request) :
    session.build generator request =
      session.schema.answer session.options (session.registryOf generator) request := by
  cases request <;> rfl

theorem registryOf_makeGenerator (session : Session) :
    (session.apply .makeGenerator).registryOf session.generators.length =
      session.newGenerator.registry := by
  simp [apply, registryOf]

/-- Registries that are written in place behave like separate values. The registry that is given to
generators holds what is registered there and nothing else. A generator that was made between other
calls finds a scalar in the options of that moment, or else in the registry that it was given as it
was then, or in the built-in scalars if it was given none. This stays so whatever is called later,
also for the generators before it, and it answers with these scalars. -/
theorem scalars_frozen (session : Session) (earlier later : List Call) :
    let before := session.afterAll earlier
    let current := session.afterAll (earlier ++ .event (.change .makeGenerator) :: later)
    let newest := before.generators.length
    let given := (session.registry.map (·.registerAll (registered earlier))).getD Registry.default
    let scalars := (changeAllOptions session.options earlier).scalars
    let known := given.registerAll scalars
    (∀ calls, (session.objects.afterAll session calls).Shows (session.afterAll calls)) ∧
    (∀ calls, (session.afterAll calls).registry =
      session.registry.map (·.registerAll (registered calls))) ∧
    (∀ name, known.zodType? name =
      ((Table.ofList scalars).find? name).or (given.zodType? name)) ∧
    current.registryOf newest = known ∧
    (∀ generator < newest, current.registryOf generator = before.registryOf generator) ∧
    (∀ request, (current.ask newest request).1 =
      (current.look newest).schema.answer current.options known request) ∧
    ∀ template, (current.render newest template).1 =
      rendered current.options current.headers template
        ((current.look newest).schema.answer current.options known .sections) := by
  intro before current newest given scalars known
  have current_eq : current = (before.apply .makeGenerator).afterAll later :=
    session.afterAll_append earlier _
  have frozen : current.registryOf newest = known := by
    rw [current_eq, registryOf_afterAll before.lt_length_makeGenerator, registryOf_makeGenerator,
      newGenerator, registry_afterAll, options_afterAll]
  have agrees := current.agreesOutsideSchema_look newest
  have answers (request : Request) : (current.ask newest request).1 =
      (current.look newest).schema.answer current.options known request := by
    rw [← frozen, ← agrees.options, ← agrees.registries]
    exact (current.look newest).build_eq_answer newest request
  refine ⟨session.shows_objects.afterAll, session.registry_afterAll,
    given.zodType?_registerAll_ofList scalars, frozen, ?_, answers, ?_⟩
  · intro generator older
    have unchanged := registryOf_afterAll older (.event (.change .makeGenerator) :: later)
    rwa [← session.afterAll_append] at unchanged
  · intro template
    rw [← answers, ← agrees.options, ← agrees.headers]
    rfl

/-- The scalars of two generators, and then what is registered after the second one was made. -/
example :
    let calls : List Call := [
      .event (.change (.setOptions fun options => { options with scalars := [("Email", "string")] })),
      .event (.change .makeGenerator),
      .event (.change (.setOptions fun options => { options with scalars := [] })),
      .registerAll [("Url", "string"), ("ID", "number")],
      .event (.change .makeGenerator),
      .event (.change (.registerScalar "ID" "bigint"))]
    let session := afterAll { schema := {}, registry := some Registry.default } calls
    (session.registryOf 0).zodType? "Email" = some "string" ∧
      (session.registryOf 0).zodType? "ID" = some "string" ∧
      (session.registryOf 0).zodType? "Url" = none ∧
      (session.registryOf 1).zodType? "Email" = none ∧
      (session.registryOf 1).zodType? "ID" = some "number" ∧
      session.registry.bind (·.zodType? "Email") = none ∧
      session.registry.bind (·.zodType? "ID") = some "bigint" := by
  decide +kernel

end Session

end ZodValidators
