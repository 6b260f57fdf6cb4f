import ZodValidators.Decimal.Numeral
import ZodValidators.Metadata
import ZodValidators.Sdl.Syntax

/-!
# The metadata of schema documents

Input types become input types, the fields of the root types `Query` and `Mutation` become
operations, and the arguments of the directive `@zod` become custom text. Definitions are added to a
schema one after the other; where the types of fields are defined is found out at the end.
-/

set_option autoImplicit false

namespace ZodValidators

namespace Sdl

open ZodValidators.Decimal

def numeral? (text : String) : Option Numeral := (Numeral.read? text.toList).map Prod.fst

mutual

/-- The constant that a value spells. A later field of an object replaces an earlier one of its
name. -/
def Value.constant : Value → Constant
  | .null => .null
  | .boolean value => .boolean value
  -- Every digit counts. A reader that gives up behind 4300 digits differs on longer whole numbers.
  | .integer text => .integer ((numeral? text).elim 0 Numeral.integer)
  | .real text => .real ((numeral? text).elim .notANumber Numeral.real)
  | .text content => .text content
  | .enumeration name => .text name
  | .list items => .list (constants items)
  | .object fields => .object (constantEntries [] fields)

def constants : List Value → List Constant
  | [] => []
  | item :: rest => item.constant :: constants rest

def constantEntries (before : List (Text × Constant)) :
    List (String × Value) → List (Text × Constant)
  | [] => before
  | (name, value) :: rest =>
    constantEntries (Constant.insertEntry name value.constant before) rest

end

/-- The value of an argument, the last one of its name. -/
def Directive.argument (directive : Directive) (name : String) : Constant :=
  match directive.arguments.reverse.find? fun argument => argument.1 = name with
  | some (_, value) => value.constant
  | none => .null

/-- The directive that custom text is given with, of several the first one. -/
def InputValue.zod? (value : InputValue) : Option Directive :=
  value.directives.find? fun directive => directive.name = "zod"

def InputValue.customText (value : InputValue) (name : String) : Constant :=
  match value.zod? with
  | some directive => directive.argument name
  | none => .null

/-- The field that is defined. It is required when its type excludes null and it has no default. -/
def InputValue.field (value : InputValue) : Field where
  name := value.name
  candidates := [{ name := value.type.innermost, isList := value.type.isList }]
  required := value.type.isNonNull && value.default.isNone
  nullable := !value.type.isNonNull
  validator := value.customText "validator"
  customErrors := value.customText "errors"
  description := value.description.map Text.ofString

def rootKind? (name : String) : Option RootKind :=
  if name = "Query" then some .query else if name = "Mutation" then some .mutation else none

def ObjectField.operation (kind : RootKind) (field : ObjectField) : Operation where
  name := field.name
  kind := kind
  arguments := field.arguments.map InputValue.field
  argumentsName := Operation.argumentsNameFor field.name []
  description := field.description.map Text.ofString

end Sdl

/-- The input type with the fields added that it does not have. -/
def InputType.merge (inputType : InputType) (fields : List Field) : InputType :=
  { inputType with
    fields := inputType.fields ++ fields.filter fun field =>
      !(inputType.fields.map Field.name).contains field.name }

namespace Schema

def addInput (schema : Schema) (name : Text) (fields : List Field) (description : Option Text) :
    Schema :=
  match schema.inputs.find? name with
  | some existing => schema.putInput name (existing.merge fields)
  | none => schema.putInput name { name, fields, description }

/-- The schema with a definition added. A later enum of a name replaces an earlier one. -/
def addDefinition (schema : Schema) : Sdl.Definition → Schema
  | .scalar name => schema.declareScalar name
  | .enumeration name values description =>
    schema.putEnum name
      { name, values := values.map Text.ofString, origin := "model"
        description := description.map Text.ofString }
  | .object name fields =>
    match Sdl.rootKind? name with
    | some kind =>
      fields.foldl (fun schema field => schema.addOperation (field.operation kind)) schema
    | none => schema
  | .input name fields description =>
    schema.addInput name (fields.map Sdl.InputValue.field) (description.map Text.ofString)
  | .other => schema

def addDocument (schema : Schema) (document : Sdl.Document) : Schema :=
  document.foldl addDefinition schema

/-- The candidate with the place where its type is defined. An enum of its name goes before an
input type. -/
def locate (schema : Schema) (candidate : TypeRef) : TypeRef :=
  if schema.enums.has candidate.name then { candidate with location := Location.enumeration }
  else if schema.inputs.has candidate.name then { candidate with location := Location.inputObject }
  else candidate

def locateAll (schema : Schema) : Schema :=
  schema.mapFields fun field => { field with candidates := field.candidates.map schema.locate }

end Schema

end ZodValidators
