import ZodValidators.CommandLine.Usage
import ZodValidators.ModuleFile
import ZodValidators.Sdl.Files
import ZodValidators.Snapshot.Loading

/-!
# Generating a module

`generate` is the command's work once its options are known: it loads the metadata, builds the
declarations, and writes the module. A file whose name ends in `.json` is a snapshot, anything else
is a schema. The files change only in the last step.
-/

set_option autoImplicit false

namespace ZodValidators.CommandLine

structure Job where
  schema : String
  output : String
  templateDirectory : Option String := none
  header : String := ""
  scalars : List String := []
  schemaNamespace : Text := ({} : Options).schemaNamespace
  modelNamespace : Text := ({} : Options).modelNamespace
  verbose : Bool := false
deriving DecidableEq, Repr

namespace Job

def options (job : Job) (scalars : Table Text) : Options where
  schemaNamespace := job.schemaNamespace
  modelNamespace := job.modelNamespace
  templateDirectory := job.templateDirectory
  scalars := scalars.entries

def headers (job : Job) : List Text := if job.header = "" then [] else [job.header]

def schemaPath (job : Job) (tree : FileTree) : FilePath :=
  (FilePath.ofText job.schema).resolve tree.working

def outputPath (job : Job) (tree : FileTree) : FilePath :=
  (FilePath.ofText job.output).resolve tree.working

def whenVerbose {α : Type} (job : Job) (lines : List α) : List α :=
  if job.verbose then lines else []

end Job

inductive Failure where
  | schema (failure : Sdl.LoadFailure)
  | snapshot (failure : Snapshot.LoadFailure)
  | field (failure : FieldFailure)
  | write (failure : ModuleFile.WriteFailure)
deriving DecidableEq, Repr

def Failure.ending : Failure → Except Breakdown Text
  | .schema (.syntaxFault file fault) => .ok (Sdl.syntaxMessage file fault.message)
  | .schema (.encoding fault) => .error (.encoding fault)
  | .schema (.file fault) => .error (.file fault)
  | .snapshot (.snapshot failure) => .ok failure.message
  | .snapshot (.file fault) => .error (.file fault)
  | .field failure => .ok failure.message
  | .write (.render (.directory fault)) => .error (.file fault)
  | .write (.render (.template fault)) => .error (.template fault)
  | .write (.render (.encoding fault)) => .error (.encoding fault)
  | .write (.file refusal) => .error (.file refusal.fault)
  | .write (.surrogate _) => .error .surrogate

def Failure.left (tree : FileTree) : Failure → FileTree
  | .write (.file refusal) => refusal.left
  | .write (.surrogate left) => left
  | _ => tree

def Failure.outcome (tree : FileTree) (transcript : Transcript) (failure : Failure) : Outcome :=
  match failure.ending with
  | .ok message =>
    { exitCode := 1, transcript := transcript.report [errorReport message]
      tree := failure.left tree }
  | .error breakdown =>
    { exitCode := 1, transcript, tree := failure.left tree, breakdown := some breakdown }

def loadMetadata (tree : FileTree) (path : FilePath) : Except Failure Schema :=
  if path.hasSuffix ".json" then (Snapshot.load tree path.text).mapError .snapshot
  else (Sdl.load tree path.text).mapError .schema

/-! ## The log -/

def loadLog (job : Job) (path : FilePath) : Except Failure Schema → List Text
  | .error (.schema (.syntaxFault file fault)) =>
    ["ERROR zod_pygen.core.parser: " ++ Sdl.syntaxMessage file fault.message]
  | .error _ => []
  | .ok schema =>
    if path.hasSuffix ".json" then
      job.whenVerbose
        ["DEBUG zod_pygen.core.snapshot: Loaded snapshot with " ++ toString schema.enums.size ++
          " enums, " ++ toString schema.inputs.size ++ " inputs, " ++
          toString schema.operations.length ++ " operations"]
    else []

/-- The items up to the first one that does not pass, which is the last one. -/
def throughFirstFailure {α : Type} (passes : α → Bool) : List α → List α
  | [] => []
  | item :: rest => if passes item then item :: throughFirstFailure passes rest else [item]

def compileLine (severity : String) (message : Text) : Text :=
  severity ++ " zod_pygen.core.generator: " ++ message

def compileLog (options : Options) (schema : Schema) : List Text :=
  let context := schema.buildContext options options.registry
  let inputPasses := fun inputType : InputType => (inputType.declaration context).toBool
  let operationPasses := fun operation : Operation => (operation.declaration context).toBool
  let inputs := (throughFirstFailure inputPasses schema.inputs.values).map fun inputType =>
    compileLine "DEBUG" ("Compiling input type " ++ inputType.name)
  let operations := (throughFirstFailure operationPasses schema.operations).map fun operation =>
    compileLine "DEBUG"
      ("Compiling arguments of " ++ operation.kind.label ++ " " ++ operation.name)
  let summary := compileLine "INFO" <|
    "Generated " ++ toString schema.enums.size ++ " enum, " ++ toString schema.inputs.size ++
      " input and " ++ toString schema.operations.length ++ " args declarations"
  if !schema.inputs.values.all inputPasses then inputs
  else if !schema.operations.all operationPasses then inputs ++ operations
  else inputs ++ operations ++ [summary]

/-! ## The command -/

def countLines (schema : Schema) : List String :=
  ["  Enums: " ++ toString schema.enums.size, "  Inputs: " ++ toString schema.inputs.size,
   "  Queries: " ++ toString schema.queries.length,
   "  Mutations: " ++ toString schema.mutations.length]

def writeModule (tree : FileTree) (job : Job) (options : Options) (transcript : Transcript)
    (schema : Schema) : Outcome :=
  let path := job.outputPath tree
  let transcript :=
    (transcript.print (job.whenVerbose (countLines schema) ++ ["Generating validators..."])).report
      (job.whenVerbose (compileLog options schema))
  match schema.sections options options.registry with
  | .error failure => (Failure.field failure).outcome tree transcript
  | .ok sections =>
    match ModuleFile.write tree options job.headers sections path with
    | .error failure => (Failure.write failure).outcome tree transcript
    | .ok written =>
      let log : List Text := ["INFO zod_pygen.core.writer: Wrote " ++ path.text]
      { exitCode := 0
        transcript := (transcript.report (job.whenVerbose log)).print
          ["Done! Generated validators in " ++ path.text]
        tree := written }

def generate (tree : FileTree) (job : Job) : Outcome :=
  match scalarMappings job.scalars with
  | .error value =>
    (Complaint.invalidValue "--scalar" (scalarMappingMessage value)).outcome tree .generate
  | .ok scalars =>
    let path := job.schemaPath tree
    let places := ["Schema: " ++ path.text, "Output: " ++ (job.outputPath tree).text]
    let loaded := loadMetadata tree path
    let transcript : Transcript :=
      { printed := job.whenVerbose places ++ ["Parsing schema..."]
        reported := loadLog job path loaded }
    match loaded with
    | .error failure => failure.outcome tree transcript
    | .ok schema => writeModule tree job (job.options scalars) transcript schema

end ZodValidators.CommandLine
