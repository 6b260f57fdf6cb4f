import ZodValidators.FileTree
import ZodValidators.Json.Reader
import ZodValidators.Snapshot.Reading
import ZodValidators.Text.Utf8

/-!
# The metadata of snapshots

A snapshot document lists its fields with all their candidate types, so nothing has to be found out
about them. The enums of the data model get pascal case names. `load` reads a snapshot from a file.
-/

set_option autoImplicit false

namespace ZodValidators.Snapshot

def customText : Option Text → Constant
  | some content => .text content
  | none => .null

def CandidateEntry.candidate (entry : CandidateEntry) : TypeRef where
  name := entry.type
  location := entry.location
  isList := entry.isList

/-- The field that is listed. It is optional when it is not required, unless the entry says so or
not. -/
def FieldEntry.field (entry : FieldEntry) : Field where
  name := entry.name
  candidates := entry.inputTypes.map CandidateEntry.candidate
  required := entry.isRequired
  nullable := entry.isNullable
  optional := entry.isOptional.getD !entry.isRequired
  validator := customText entry.zodValidatorString
  customErrors := customText entry.zodCustomErrors

def InputTypeEntry.inputType (entry : InputTypeEntry) : InputType where
  name := entry.name
  fields := entry.fields.map FieldEntry.field

def OperationEntry.operation (kind : RootKind) (entry : OperationEntry) : Operation where
  name := entry.name
  kind := kind
  arguments := entry.args.map FieldEntry.field
  argumentsName := Operation.argumentsNameFor entry.name (entry.argName.getD [])

def OutputTypeEntry.operations (entry : OutputTypeEntry) : List Operation :=
  if entry.name = "Query" then entry.fields.map (OperationEntry.operation .query)
  else if entry.name = "Mutation" then entry.fields.map (OperationEntry.operation .mutation)
  else []

def EnumEntry.nativeEnum (entry : EnumEntry) : EnumType where
  name := entry.name
  values := entry.values
  origin := "schema"

def EnumEntry.modelEnum (entry : EnumEntry) : EnumType where
  name := Naming.pascalCase entry.name
  values := entry.values
  origin := "model"

/-- The metadata that a document lists. Enums and input types are kept by name, the last one of a
name in the place of the first one. -/
def Document.schema (document : Document) : Schema :=
  let enums := document.enumTypes.map EnumEntry.nativeEnum ++
    document.modelEnums.map EnumEntry.modelEnum
  let inputs := document.inputTypes.map InputTypeEntry.inputType
  let operations := document.outputTypes.flatMap OutputTypeEntry.operations
  let schema : Schema :=
    { enums := Table.ofList (enums.map fun enumType => (enumType.name, enumType))
      inputs := Table.ofList (inputs.map fun inputType => (inputType.name, inputType)) }
  operations.foldl Schema.addOperation schema

inductive Failure where
  | encoding (file : String) (fault : Text.Utf8.Fault)
  | json (file : String) (fault : Json.Fault)
  | invalid (issues : List Issue)
deriving DecidableEq, Repr

/-- What is reported about a failure; the issues themselves are not part of it. -/
def Failure.message : Failure → String
  | .encoding file fault => "Error parsing " ++ file ++ ": " ++ fault.message
  | .json file fault => "Error parsing " ++ file ++ ": " ++ fault.message
  | .invalid issues =>
    "Invalid metadata snapshot: " ++ toString issues.length ++ " validation " ++
      (if issues.length = 1 then "error" else "errors") ++ " for Snapshot"

def loadValue (value : Json.Value) : Except Failure Schema :=
  match readDocument value with
  | .valid document => .ok document.schema
  | .invalid issues => .error (.invalid issues)

def loadBytes (file : String) (bytes : List UInt8) : Except Failure Schema :=
  match Text.Utf8.decode bytes with
  | .error fault => .error (.encoding file fault)
  | .ok characters =>
    match Json.parse (Text.unifyLineEnds characters) with
    | .error fault => .error (.json file fault)
    | .ok value => loadValue value

inductive LoadFailure where
  | file (fault : FileFault)
  | snapshot (failure : Failure)
deriving DecidableEq, Repr

def load (tree : FileTree) (path : String) : Except LoadFailure Schema :=
  match tree.read path with
  | .error fault => .error (.file fault)
  | .ok bytes => (loadBytes (FilePath.ofText path).name bytes).mapError .snapshot

end ZodValidators.Snapshot
