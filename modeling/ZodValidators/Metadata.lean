import ZodValidators.Constant
import ZodValidators.Naming
import ZodValidators.Table

/-!
# Schema metadata

What validators are made from: enums, input object types and the arguments of the root operations.
A field lists its candidate types in order; the marker `Null` among the scalars says that null is
one of them.
-/

set_option autoImplicit false

namespace ZodValidators

/-- Where a candidate type is defined, by the name that the metadata uses. -/
abbrev Location := Text

namespace Location

def scalar : Location := "scalar"

def inputObject : Location := "inputObjectTypes"

def enumeration : Location := "enumTypes"

end Location

structure TypeRef where
  name : Text
  location : Location := Location.scalar
  isList : Bool := false
deriving DecidableEq, Repr

def TypeRef.isNull (candidate : TypeRef) : Bool :=
  candidate.location = Location.scalar && candidate.name = "Null"

/-- A field of an input object type, or an argument of an operation. The validator and the custom
errors are inserted into the expression as they are; `null` inserts nothing. -/
structure Field where
  name : Text
  candidates : List TypeRef := []
  required : Bool := true
  nullable : Bool := false
  optional : Bool := !required
  validator : Constant := .null
  customErrors : Constant := .null
  description : Option Text := none
deriving Repr

def Field.nonNullCandidates (field : Field) : List TypeRef :=
  field.candidates.filter fun candidate => !candidate.isNull

structure InputType where
  name : Text
  fields : List Field := []
  description : Option Text := none
deriving Repr

/-- An enum type. Its origin is `schema` when the schema defines it by itself; any other origin
counts as the data model's. -/
structure EnumType where
  name : Text
  values : List Text := []
  origin : Text := "model"
  description : Option Text := none
deriving DecidableEq, Repr

def EnumType.isNative (enumType : EnumType) : Bool := enumType.origin = "schema"

inductive RootKind where
  | query
  | mutation
deriving DecidableEq, Repr

def RootKind.label : RootKind → String
  | .query => "query"
  | .mutation => "mutation"

structure Operation where
  name : Text
  kind : RootKind
  arguments : List Field := []
  argumentsName : Text
  description : Option Text := none
deriving Repr

/-- The name of an operation's arguments: the one that is given, or else one made from the
operation's name. -/
def Operation.argumentsNameFor (name given : Text) : Text :=
  if given = [] then Naming.pascalCase name ++ "Args" else given

/-- All metadata of one schema. Enums and input types are kept under a key, which is mostly their
name. -/
structure Schema where
  /-- Names of declared scalars, each once. -/
  scalars : List Text := []
  enums : Table EnumType := {}
  inputs : Table InputType := {}
  queries : List Operation := []
  mutations : List Operation := []
deriving Repr

namespace Schema

def nativeEnums (schema : Schema) : List EnumType :=
  schema.enums.values.filter EnumType.isNative

def modelEnums (schema : Schema) : List EnumType :=
  schema.enums.values.filter fun enumType => !enumType.isNative

def operations (schema : Schema) : List Operation := schema.queries ++ schema.mutations

def declareScalar (schema : Schema) (name : Text) : Schema :=
  if name ∈ schema.scalars then schema
  else { schema with scalars := schema.scalars ++ [name] }

def putEnum (schema : Schema) (key : Text) (enumType : EnumType) : Schema :=
  { schema with enums := schema.enums.insert key enumType }

def putInput (schema : Schema) (key : Text) (inputType : InputType) : Schema :=
  { schema with inputs := schema.inputs.insert key inputType }

def addOperation (schema : Schema) (operation : Operation) : Schema :=
  match operation.kind with
  | .query => { schema with queries := schema.queries ++ [operation] }
  | .mutation => { schema with mutations := schema.mutations ++ [operation] }

theorem foldl_addOperation_eq (schema : Schema) (operations : List Operation) :
    operations.foldl addOperation schema = { schema with
      queries := schema.queries ++ operations.filter fun operation => operation.kind = .query
      mutations := schema.mutations ++
        operations.filter fun operation => operation.kind = .mutation } := by
  induction operations generalizing schema with
  | nil => simp
  | cons operation rest ih =>
      rw [List.foldl_cons, ih, addOperation]
      cases kind : operation.kind <;> simp [kind]

def mapFields (schema : Schema) (change : Field → Field) : Schema :=
  let inOperation := fun operation : Operation =>
    { operation with arguments := operation.arguments.map change }
  { schema with
    inputs := schema.inputs.mapValues fun inputType =>
      { inputType with fields := inputType.fields.map change }
    queries := schema.queries.map inOperation
    mutations := schema.mutations.map inOperation }

end Schema

end ZodValidators
