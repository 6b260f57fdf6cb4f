import ZodValidators.CommandLine.Generate

/-!
# Running the program

`run` gives the outcome of the program for its arguments: it reads the switches, checks them in the
order in which they were given, and generates a module or complains.
-/

set_option autoImplicit false

namespace ZodValidators.CommandLine

open ZodValidators.Text

/-! ## The command `generate` -/

inductive GenerateSwitch where
  | schema
  | output
  | templateDirectory
  | header
  | scalar
  | schemaNamespace
  | modelNamespace
  | verbose
  | help
deriving DecidableEq, Repr

def generateSwitches : List (Switch GenerateSwitch) :=
  [{ key := .schema, long := "--schema", short := some 's' },
   { key := .output, long := "--output", short := some 'o' },
   { key := .templateDirectory, long := "--template-dir" },
   { key := .header, long := "--header" },
   { key := .scalar, long := "--scalar" },
   { key := .schemaNamespace, long := "--schema-namespace" },
   { key := .modelNamespace, long := "--model-namespace" },
   { key := .verbose, long := "--verbose", short := some 'v', takesValue := false },
   { key := .help, long := "--help", takesValue := false }]

def GenerateSwitch.spellings : GenerateSwitch → String
  | .schema => "'--schema' / '-s'"
  | .output => "'--output' / '-o'"
  | .templateDirectory => "'--template-dir'"
  | .header => "'--header'"
  | .scalar => "'--scalar'"
  | .schemaNamespace => "'--schema-namespace'"
  | .modelNamespace => "'--model-namespace'"
  | .verbose => "'--verbose' / '-v'"
  | .help => "'--help'"

abbrev GenerateArguments := Arguments GenerateSwitch

def GenerateSwitch.isPath : GenerateSwitch → Bool
  | .schema | .output | .templateDirectory => true
  | _ => false

def GenerateSwitch.complaint? (tree : FileTree) (arguments : GenerateArguments)
    (switch : GenerateSwitch) : Option Complaint :=
  match switch, arguments.value? switch with
  | .schema, none | .output, none => some (.missingOption switch.spellings)
  | .schema, some path =>
    if (tree.find? path).isSome then none
    else some (.invalidValue switch.spellings ("Path " ++ quoted path ++ " does not exist."))
  | .templateDirectory, some path =>
    match tree.find? path with
    | none =>
      some (.invalidValue switch.spellings ("Directory " ++ quoted path ++ " does not exist."))
    | some place =>
      if tree.isDirectoryAt place then none
      else some (.invalidValue switch.spellings ("Directory " ++ quoted path ++ " is a file."))
  | _, _ => none

/-- Why the work is not begun: the arguments do not fit, or a path can lead to no file at all. -/
inductive Obstacle where
  | complaint (complaint : Complaint)
  | breakdown (breakdown : Breakdown)
deriving DecidableEq, Repr

def Obstacle.outcome (tree : FileTree) : Obstacle → Outcome
  | .complaint reason => reason.outcome tree .generate
  | .breakdown reason => { exitCode := 1, tree, breakdown := some reason }

/-- What a switch puts in the way of the work. The null character cannot stand in a path. -/
def GenerateSwitch.obstacle? (tree : FileTree) (arguments : GenerateArguments)
    (switch : GenerateSwitch) : Option Obstacle :=
  let fault := (arguments.value? switch).bind FileTree.pathFault?
  if switch.isPath && fault = some .nullCharacter then some (.breakdown (.file .nullCharacter))
  else (switch.complaint? tree arguments).map .complaint

/-- The order in which switches are checked: as they were given, and then as they are listed. -/
def GenerateSwitch.order (arguments : GenerateArguments) : List GenerateSwitch :=
  arguments.switches.map Prod.fst ++ generateSwitches.map Switch.key

def readJob (tree : FileTree) (arguments : GenerateArguments) : Except Obstacle Job :=
  match (GenerateSwitch.order arguments).findSome? (GenerateSwitch.obstacle? tree arguments) with
  | some obstacle => .error obstacle
  | none =>
    if arguments.others != [] then .error (.complaint (.extraArguments arguments.others))
    else
      match arguments.value? .schema, arguments.value? .output with
      | none, _ => .error (.complaint (.missingOption GenerateSwitch.schema.spellings))
      | _, none => .error (.complaint (.missingOption GenerateSwitch.output.spellings))
      | some schema, some output =>
        let standard : Job := { schema, output }
        .ok { standard with
          templateDirectory := arguments.value? .templateDirectory
          header := (arguments.value? .header).getD standard.header
          scalars := arguments.values .scalar
          schemaNamespace :=
            ((arguments.value? .schemaNamespace).map Text.ofString).getD standard.schemaNamespace
          modelNamespace :=
            ((arguments.value? .modelNamespace).map Text.ofString).getD standard.modelNamespace
          verbose := arguments.has .verbose }

def generateHelp : List String :=
  [Level.generate.usage,
   "",
   "  Generate zod validators from a schema.",
   "",
   "Options:",
   "  -s, --schema PATH         Path to a GraphQL schema file or directory, or a",
   "                            JSON metadata snapshot.  [required]",
   "  -o, --output PATH         Output file for the generated validators (e.g.,",
   "                            validators.ts).  [required]",
   "  --template-dir DIRECTORY  Directory with a custom validators.ts.j2 template.",
   "  --header TEXT             Text to prepend to the generated file.",
   "  --scalar TEXT             Map a custom scalar onto a zod constructor, e.g.",
   "                            Email=string.",
   "  --schema-namespace TEXT   Namespace of the schema's native types and enums.",
   "                            [default: Prisma.Prisma]",
   "  --model-namespace TEXT    Namespace of the data model's enums.  [default:",
   "                            Prisma]",
   "  -v, --verbose             Enable verbose output.",
   "  --help                    Show this message and exit."]

def runGenerate (tree : FileTree) (arguments : List String) : Outcome :=
  match readArguments generateSwitches true arguments with
  | .error fault => (Complaint.switch fault).outcome tree .generate
  | .ok arguments =>
    if arguments.has .help then { exitCode := 0, transcript := { printed := generateHelp }, tree }
    else
      match readJob tree arguments with
      | .error obstacle => obstacle.outcome tree
      | .ok job => generate tree job

/-! ## The program -/

inductive ProgramSwitch where
  | version
  | help
deriving DecidableEq, Repr

def programSwitches : List (Switch ProgramSwitch) :=
  [{ key := .version, long := "--version", takesValue := false },
   { key := .help, long := "--help", takesValue := false }]

def programHelp : List String :=
  [Level.program.usage,
   "",
   "  Zod validator generator.",
   "",
   "  Generate zod validators from GraphQL schemas or metadata snapshots.",
   "",
   "Options:",
   "  --version  Show the version and exit.",
   "  --help     Show this message and exit.",
   "",
   "Commands:",
   "  generate  Generate zod validators from a schema."]

def ProgramSwitch.answer : ProgramSwitch → List String
  | .version => ["main, version 0.1.0"]
  | .help => programHelp

/-- The outcome of arguments in front of which switches of the program may stand. The first of
them is answered; where there is none, the other arguments are passed on. -/
def runProgram (tree : FileTree) (arguments : List String) (command : List String → Outcome) :
    Outcome :=
  match readArguments programSwitches false arguments with
  | .error fault => (Complaint.switch fault).outcome tree .program
  | .ok ⟨(switch, _) :: _, _⟩ =>
    { exitCode := 0, transcript := { printed := switch.answer }, tree }
  | .ok ⟨[], others⟩ => command others

/-- The outcome of the program. A name that is no command may be a switch of the program that
stands behind two dashes. -/
def run (tree : FileTree) (arguments : List String) : Outcome :=
  if arguments = [] then
    { exitCode := 2, transcript := { reported := programHelp.map Text.ofString }, tree }
  else
    runProgram tree arguments fun
      | [] => Complaint.missingCommand.outcome tree .program
      | "generate" :: rest => runGenerate tree rest
      | name :: rest =>
        runProgram tree (name :: rest) fun _ =>
          (Complaint.unknownCommand name (suggestions ["generate"] name)).outcome tree .program

/-! ## What a run looks at -/

def pathsRead (arguments : List String) : List String :=
  match readArguments generateSwitches true (arguments.dropWhile (· != "generate")).tail with
  | .error _ => []
  | .ok arguments => arguments.values .schema ++ arguments.values .templateDirectory

def pathsWritten (arguments : List String) : List String :=
  match readArguments generateSwitches true (arguments.dropWhile (· != "generate")).tail with
  | .error _ => []
  | .ok arguments => arguments.values .output

end ZodValidators.CommandLine
