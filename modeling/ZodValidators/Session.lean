import ZodValidators.Declaration
import ZodValidators.NameFilter

/-!
# Sessions

A session holds a schema, options, filters, headers and a scalar registry that several generators
share and that may change between their uses. A generator takes its scalars when it is made: the
registry of that moment with the options' scalars on top. It applies the filters to the shared
schema when it first looks at it, and never again.
-/

set_option autoImplicit false

namespace ZodValidators

structure Generator where
  registry : Registry
  /-- It has looked at the schema and applied the filters. -/
  primed : Bool := false

structure Session where
  schema : Schema
  options : Options := {}
  filters : List NameFilter := []
  headers : List Text := []
  /-- The registry that is given to new generators. -/
  registry : Option Registry := none
  generators : List Generator := []

namespace Session

inductive Change where
  | registerScalar (name zodType : Text)
  | declareScalar (name : Text)
  | addFilter (filter : NameFilter)
  | addHeader (header : Text)
  | putEnum (key : Text) (enumType : EnumType)
  | putInput (key : Text) (inputType : InputType)
  | addOperation (operation : Operation)
  | setOptions (change : Options → Options)
  | makeGenerator

def newGenerator (session : Session) : Generator where
  registry := (session.registry.getD Registry.default).registerAll session.options.scalars

def apply (session : Session) : Change → Session
  | .registerScalar name zodType =>
    { session with registry := session.registry.map fun registry => registry.register name zodType }
  | .declareScalar name => { session with schema := session.schema.declareScalar name }
  | .addFilter filter => { session with filters := session.filters ++ [filter] }
  | .addHeader header => { session with headers := session.headers ++ [header] }
  | .putEnum key enumType => { session with schema := session.schema.putEnum key enumType }
  | .putInput key inputType => { session with schema := session.schema.putInput key inputType }
  | .addOperation operation => { session with schema := session.schema.addOperation operation }
  | .setOptions change => { session with options := change session.options }
  | .makeGenerator => { session with generators := session.generators ++ [session.newGenerator] }

/-- The session after a generator has looked at the schema. -/
def look (session : Session) (generator : Nat) : Session :=
  match session.generators[generator]? with
  | some { primed := false, registry } =>
    { session with
      schema := NameFilter.applyAll session.filters session.schema
      generators := session.generators.set generator { registry, primed := true } }
  | _ => session

def registryOf (session : Session) (generator : Nat) : Registry :=
  ((session.generators[generator]?).map Generator.registry).getD Registry.default

inductive Request where
  | enums
  | inputs
  | arguments
  | sections
deriving DecidableEq, Repr

def build (session : Session) (generator : Nat) : Request → Except FieldFailure (List Section)
  | .enums =>
    .ok [{ title := DeclarationKind.enumeration.title
           declarations := session.schema.enumDeclarations session.options }]
  | .inputs => do
    let declarations ←
      session.schema.inputDeclarations session.options (session.registryOf generator)
    return [{ title := DeclarationKind.input.title, declarations }]
  | .arguments => do
    let declarations ←
      session.schema.argumentDeclarations session.options (session.registryOf generator)
    return [{ title := DeclarationKind.arguments.title, declarations }]
  | .sections => session.schema.sections session.options (session.registryOf generator)

/-- A generator's answer and the session after it. The generator looks at the schema first, also
when the answer is a failure. -/
def ask (session : Session) (generator : Nat) (request : Request) :
    Except FieldFailure (List Section) × Session :=
  let session := session.look generator
  (session.build generator request, session)

end Session

end ZodValidators
