import ZodValidators.Expression

/-!
# Declarations

A module declares one validator per enum, input object type and operation. `Schema.sections` builds
all of them in groups: first the enums, then the input types, whose references are deferred because
they may refer to each other, then the arguments, which refer to what stands before them.
-/

set_option autoImplicit false

namespace ZodValidators

structure Options where
  zodImport : Text := "import \x7b z \x7d from 'zod';"
  clientImport : Text := "import \x7b Prisma \x7d from '@prisma/client';"
  schemaNamespace : Text := "Prisma.Prisma"
  modelNamespace : Text := "Prisma"
  templateDirectory : Option String := none
  scalars : List (Text × Text) := []
deriving DecidableEq, Repr

def Options.declaredType (options : Options) (name : Text) : Text :=
  "z.ZodType<" ++ options.schemaNamespace ++ "." ++ name ++ ">"

inductive DeclarationKind where
  | enumeration
  | input
  | arguments
deriving DecidableEq, Repr

def DeclarationKind.label : DeclarationKind → String
  | .enumeration => "enum"
  | .input => "input"
  | .arguments => "args"

def DeclarationKind.title : DeclarationKind → String
  | .enumeration => "ENUMS"
  | .input => "INPUT TYPES"
  | .arguments => "ARGS"

structure Declaration where
  name : Text
  body : Text
  declaredType : Option Text := none
  kind : Text := "input"
deriving DecidableEq, Repr

structure Section where
  title : Text
  declarations : List Declaration := []
deriving DecidableEq, Repr

/-- The built-in scalars with those of the options on top. -/
def Options.registry (options : Options) : Registry := Registry.default.registerAll options.scalars

def Field.line (registry : Registry) (deferred : Bool) (owner : Text) (field : Field) :
    Except FieldFailure Text :=
  (field.compile registry deferred (some owner)).map fun expression =>
    "  " ++ field.name ++ ": " ++ expression

def objectOpening : Text := "z.object(\x7b"

def objectClosing : Text := "\x7d).strict()"

def objectBody (registry : Registry) (deferred : Bool) (owner : Text) (fields : List Field) :
    Except FieldFailure Text :=
  match fields with
  | [] => .ok (objectOpening ++ objectClosing)
  | fields => do
    let lines ← gather (Field.line registry deferred owner) fields
    return Text.join "\n" ([objectOpening] ++ lines ++ [objectClosing])

/-- A failure in which an unrecognized scalar that the schema declares is marked so. -/
def FieldFailure.markDeclared (declaredScalars : List Text) : FieldFailure → FieldFailure
  | .unrecognized candidate =>
    .unrecognized <|
      if candidate.location = Location.scalar && candidate.typeName ∈ declaredScalars then
        candidate.asDeclared
      else candidate
  | failure => failure

structure BuildContext where
  options : Options
  registry : Registry
  declaredScalars : List Text

def BuildContext.objectDeclaration (context : BuildContext) (kind : DeclarationKind)
    (deferred : Bool) (name : Text) (fields : List Field) : Except FieldFailure Declaration :=
  match objectBody context.registry deferred name fields with
  | .ok body =>
    .ok { name, body, declaredType := some (context.options.declaredType name), kind := kind.label }
  | .error failure => .error (failure.markDeclared context.declaredScalars)

def EnumType.declaration (options : Options) (enumType : EnumType) : Declaration :=
  let namespaceName := if enumType.isNative then options.schemaNamespace else options.modelNamespace
  { name := enumType.name
    body := "z.nativeEnum(" ++ namespaceName ++ "." ++ enumType.name ++ ")"
    kind := DeclarationKind.enumeration.label }

def InputType.declaration (context : BuildContext) (inputType : InputType) :
    Except FieldFailure Declaration :=
  context.objectDeclaration .input true inputType.name inputType.fields

def Operation.declaration (context : BuildContext) (operation : Operation) :
    Except FieldFailure Declaration :=
  context.objectDeclaration .arguments false operation.argumentsName operation.arguments

namespace Schema

/-- The schema's enums and then the data model's. -/
def enumDeclarations (options : Options) (schema : Schema) : List Declaration :=
  (schema.nativeEnums ++ schema.modelEnums).map (EnumType.declaration options)

def buildContext (options : Options) (registry : Registry) (schema : Schema) : BuildContext :=
  { options, registry, declaredScalars := schema.scalars }

def inputDeclarations (options : Options) (registry : Registry) (schema : Schema) :
    Except FieldFailure (List Declaration) :=
  gather (InputType.declaration (schema.buildContext options registry)) schema.inputs.values

/-- The declarations of the arguments of queries and then mutations. -/
def argumentDeclarations (options : Options) (registry : Registry) (schema : Schema) :
    Except FieldFailure (List Declaration) :=
  gather (Operation.declaration (schema.buildContext options registry)) schema.operations

def sections (options : Options) (registry : Registry) (schema : Schema) :
    Except FieldFailure (List Section) := do
  let inputs ← schema.inputDeclarations options registry
  let arguments ← schema.argumentDeclarations options registry
  return [
    { title := DeclarationKind.enumeration.title, declarations := schema.enumDeclarations options },
    { title := DeclarationKind.input.title, declarations := inputs },
    { title := DeclarationKind.arguments.title, declarations := arguments }]

def declarations (options : Options) (registry : Registry) (schema : Schema) :
    Except FieldFailure (List Declaration) := do
  return (← schema.sections options registry).flatMap Section.declarations

end Schema

end ZodValidators
