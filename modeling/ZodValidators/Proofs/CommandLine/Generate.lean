import ZodValidators.CommandLine.Run
import ZodValidators.Proofs.FileTree

/-!
# All or nothing

A run of the command touches the files in its last step only, when the text of the module is
complete. So a run that fails leaves all files as they are, with one exception: half of a surrogate
pair in the text is found only after the output was opened, and an empty file stays behind.
-/

set_option autoImplicit false

namespace ZodValidators

open ZodValidators.Text

/-! ## Writing a module -/

namespace ModuleFile

theorem render_eq_map (tree : FileTree) (options : Options) (headers : List Text)
    (sections : List Section) :
    render tree options headers sections =
      (render tree options [] sections).map (ModuleText.addHeaders headers) := by
  rw [render, render]
  cases template tree options with
  | error failure => rfl
  | ok template =>
      simp only [ModuleText.render, bind, Except.bind]
      cases Template.parse template with
      | error fault => rfl
      | ok nodes =>
          dsimp only
          cases Template.evaluateAll ModuleText.filters (ModuleText.scope options sections) nodes
          · rfl
          · rfl

theorem write_of_render_eq_error {tree : FileTree} {options : Options} {headers : List Text}
    {sections : List Section} {failure : RenderFailure}
    (failed : render tree options headers sections = .error failure) (path : FilePath) :
    write tree options headers sections path = .error (.render failure) := by
  rw [write, failed]
  rfl

theorem write_of_render_eq_ok {tree : FileTree} {options : Options} {headers : List Text}
    {sections : List Section} {text : Text}
    (rendered : render tree options headers sections = .ok text) (path : FilePath) :
    write tree options headers sections path = writeText tree path text := by
  rw [write, rendered]
  rfl

theorem hasWritten_of_writeText {tree left : FileTree} {path : FilePath} {text : Text}
    (named : path.name ≠ "..") (written : writeText tree path text = .ok left) :
    ∃ bytes, Utf8.encode? text = some bytes ∧ tree.HasWritten left path bytes := by
  rw [writeText] at written
  cases encoded : Utf8.encode? text with
  | some bytes =>
      simp only [encoded] at written
      exact ⟨bytes, rfl, FileTree.hasWritten_of_writeWithDirectories_eq_ok named
        (mapError_eq_ok_iff.mp written)⟩
  | none =>
      simp only [encoded] at written
      split at written <;> cases written

/-- A text that is not written leaves no file, unless it cannot be encoded. -/
theorem failure_of_writeText {tree : FileTree} {path : FilePath} {text : Text}
    {failure : WriteFailure} (named : path.name ≠ "..")
    (failed : writeText tree path text = .error failure) :
    (∃ refusal, failure = .file refusal ∧ refusal.left.files = tree.files) ∨
      ∃ left, failure = .surrogate left ∧ Utf8.encode? text = none ∧
        tree.HasWritten left path [] := by
  rw [writeText] at failed
  cases encoded : Utf8.encode? text with
  | some bytes =>
      simp only [encoded] at failed
      obtain ⟨refusal, refused, rfl⟩ := mapError_eq_error_iff.mp failed
      exact .inl ⟨refusal, rfl, FileTree.files_of_writeWithDirectories_eq_error refused⟩
  | none =>
      simp only [encoded] at failed
      cases put : tree.writeWithDirectories path [] with
      | error refusal =>
          simp only [put, Except.error.injEq] at failed
          exact .inl ⟨refusal, failed.symm, FileTree.files_of_writeWithDirectories_eq_error put⟩
      | ok left =>
          simp only [put, Except.error.injEq] at failed
          exact .inr ⟨left, failed.symm, rfl,
            FileTree.hasWritten_of_writeWithDirectories_eq_ok named put⟩

end ModuleFile

namespace CommandLine

/-! ## The library's text -/

def Job.metadata? (tree : FileTree) (job : Job) : Option Schema :=
  let path := job.schemaPath tree
  if path.hasSuffix ".json" then (Snapshot.load tree path.text).toOption
  else (Sdl.load tree path.text).toOption

/-- The text that the library gives for a job: the metadata is loaded, the declarations are built
with the given scalars and namespaces and rendered by the template that applies, and a header that is
not empty is put in front. -/
def Job.moduleText? (tree : FileTree) (job : Job) : Option Text := do
  let scalars ← (scalarMappings job.scalars).toOption
  let schema ← job.metadata? tree
  let options : Options :=
    { schemaNamespace := job.schemaNamespace
      modelNamespace := job.modelNamespace
      templateDirectory := job.templateDirectory
      scalars := scalars.entries }
  let sections ←
    (schema.sections options (Registry.default.registerAll scalars.entries)).toOption
  let content ← (ModuleFile.render tree options [] sections).toOption
  return if job.header = "" then content else ModuleText.addHeader job.header content

/-- How the work on a job ends. -/
inductive Job.Ends (tree : FileTree) (job : Job) (outcome : Outcome) : Prop where
  | written {text : Text} {bytes : List UInt8} :
      job.moduleText? tree = some text → Utf8.encode? text = some bytes →
      outcome.exitCode = 0 → tree.HasWritten outcome.tree (job.outputPath tree) bytes →
      Ends tree job outcome
  /-- The text cannot be encoded, and the output is empty. -/
  | surrogate {text : Text} :
      job.moduleText? tree = some text → Utf8.encode? text = none →
      outcome.exitCode = 1 → tree.HasWritten outcome.tree (job.outputPath tree) [] →
      Ends tree job outcome
  | untouched : outcome.exitCode ≠ 0 → outcome.tree.files = tree.files → Ends tree job outcome

@[simp] theorem Failure.exitCode_outcome (tree : FileTree) (transcript : Transcript)
    (failure : Failure) : (failure.outcome tree transcript).exitCode = 1 := by
  rw [outcome]
  cases failure.ending <;> rfl

@[simp] theorem Failure.tree_outcome (tree : FileTree) (transcript : Transcript)
    (failure : Failure) : (failure.outcome tree transcript).tree = failure.left tree := by
  rw [outcome]
  cases failure.ending <;> rfl

theorem Job.Ends.of_left {tree : FileTree} {job : Job} {failure : Failure}
    (kept : (failure.left tree).files = tree.files) (transcript : Transcript) :
    job.Ends tree (failure.outcome tree transcript) :=
  .untouched (by simp) (by simp [kept])

theorem files_left_of_loadMetadata {tree : FileTree} {path : FilePath} {failure : Failure}
    (failed : loadMetadata tree path = .error failure) :
    (failure.left tree).files = tree.files := by
  rw [loadMetadata] at failed
  split at failed
  · obtain ⟨fault, _, rfl⟩ := mapError_eq_error_iff.mp failed
    rfl
  · obtain ⟨fault, _, rfl⟩ := mapError_eq_error_iff.mp failed
    rfl

theorem Job.metadata?_of_loadMetadata {tree : FileTree} {job : Job} {schema : Schema}
    (loaded : loadMetadata tree (job.schemaPath tree) = .ok schema) :
    job.metadata? tree = some schema := by
  rw [loadMetadata] at loaded
  rw [metadata?]
  split at loaded
  · rename_i snapshot
    rw [if_pos snapshot, mapError_eq_ok_iff.mp loaded]
    rfl
  · rename_i other
    rw [if_neg other, mapError_eq_ok_iff.mp loaded]
    rfl

theorem Job.moduleText?_of_render {tree : FileTree} {job : Job} {scalars : Table Text}
    {schema : Schema} {sections : List Section} {text : Text}
    (mapped : scalarMappings job.scalars = .ok scalars)
    (loaded : loadMetadata tree (job.schemaPath tree) = .ok schema)
    (built : schema.sections (job.options scalars) (job.options scalars).registry = .ok sections)
    (rendered : ModuleFile.render tree (job.options scalars) job.headers sections = .ok text) :
    job.moduleText? tree = some text := by
  rw [ModuleFile.render_eq_map] at rendered
  cases plain : ModuleFile.render tree (job.options scalars) [] sections with
  | error failure => simp [plain, Except.map] at rendered
  | ok content =>
      simp only [plain, Except.map, Except.ok.injEq] at rendered
      subst text
      rw [options] at plain
      rw [options, Options.registry] at built
      simp only [moduleText?, mapped, metadata?_of_loadMetadata loaded, built, plain,
        Except.toOption, Option.bind_eq_bind, Option.bind_some, Option.pure_def, headers]
      split <;> rfl

theorem writeModule_ends {tree : FileTree} {job : Job} {scalars : Table Text} {schema : Schema}
    (mapped : scalarMappings job.scalars = .ok scalars)
    (loaded : loadMetadata tree (job.schemaPath tree) = .ok schema) (transcript : Transcript) :
    job.Ends tree (writeModule tree job (job.options scalars) transcript schema) := by
  -- A resolved path has no double dot, so the output is not the directory above another one.
  have named : (job.outputPath tree).name ≠ ".." := FilePath.name_resolve_ne _ _
  rw [writeModule]
  cases built : schema.sections (job.options scalars) (job.options scalars).registry with
  | error failure => exact .of_left rfl _
  | ok sections =>
      cases rendered : ModuleFile.render tree (job.options scalars) job.headers sections with
      | error failure =>
          simp only [ModuleFile.write_of_render_eq_error rendered]
          exact .of_left rfl _
      | ok text =>
          have made := Job.moduleText?_of_render mapped loaded built rendered
          simp only [ModuleFile.write_of_render_eq_ok rendered]
          cases written : ModuleFile.writeText tree (job.outputPath tree) text with
          | error failure =>
              obtain ⟨refusal, rfl, kept⟩ | ⟨left, rfl, broken, put⟩ :=
                ModuleFile.failure_of_writeText named written
              · have left : ((Failure.write (.file refusal)).left tree).files = tree.files := kept
                exact .of_left left _
              · exact .surrogate made broken (by simp) (by simpa [Failure.left] using put)
          | ok left =>
              obtain ⟨bytes, encoded, put⟩ := ModuleFile.hasWritten_of_writeText named written
              exact .written made encoded rfl put

theorem generate_ends (tree : FileTree) (job : Job) : job.Ends tree (generate tree job) := by
  rw [generate]
  cases mapped : scalarMappings job.scalars with
  | error value => exact .untouched (by simp [Complaint.outcome]) rfl
  | ok scalars =>
      cases loaded : loadMetadata tree (job.schemaPath tree) with
      | error failure =>
          simp only [loaded]
          exact .of_left (files_left_of_loadMetadata loaded) _
      | ok schema =>
          simp only [loaded]
          exact writeModule_ends mapped loaded _

/-! ## The arguments -/

/-- The job is what the arguments of the command ask for. -/
structure Job.IsAskedBy (job : Job) (given : GenerateArguments) : Prop where
  schema : given.value? .schema = some job.schema
  output : given.value? .output = some job.output
  templateDirectory : job.templateDirectory = given.value? .templateDirectory
  header : job.header = (given.value? .header).getD ""
  scalars : job.scalars = given.values .scalar
  schemaNamespace : job.schemaNamespace = (given.value? .schemaNamespace).getD "Prisma.Prisma"
  modelNamespace : job.modelNamespace = (given.value? .modelNamespace).getD "Prisma"

theorem isAskedBy_of_readJob {tree : FileTree} {given : GenerateArguments} {job : Job}
    (read : readJob tree given = .ok job) : job.IsAskedBy given := by
  rw [readJob] at read
  split at read
  · cases read
  · split at read
    · cases read
    · split at read
      · cases read
      · cases read
      · rename_i schema output schemaGiven outputGiven
        cases read
        refine ⟨schemaGiven, outputGiven, rfl, rfl, rfl, ?_, ?_⟩
        · cases given.value? .schemaNamespace <;> rfl
        · cases given.value? .modelNamespace <;> rfl

theorem runProgram_of_readArguments {tree : FileTree} {arguments others : List String}
    (read : readArguments programSwitches false arguments = .ok ⟨[], others⟩)
    (command : List String → Outcome) : runProgram tree arguments command = command others := by
  rw [runProgram, read]

theorem run_of_readArguments {tree : FileTree} {arguments rest : List String}
    (invoked : readArguments programSwitches false arguments = .ok ⟨[], "generate" :: rest⟩) :
    run tree arguments = runGenerate tree rest := by
  have filled : arguments ≠ [] := by
    rintro rfl
    cases invoked
  rw [run, if_neg filled, runProgram_of_readArguments invoked]
  rfl

/-- Every run of the command ends with the files as they were, or on a job that the arguments ask
for. -/
theorem runGenerate_cases (tree : FileTree) {rest : List String}
    (notHelp : ∀ given, readArguments generateSwitches true rest = .ok given →
      given.has .help = false) :
    ((runGenerate tree rest).exitCode ≠ 0 ∧ (runGenerate tree rest).tree.files = tree.files) ∨
      ∃ (given : GenerateArguments) (job : Job),
        readArguments generateSwitches true rest = .ok given ∧
        job.IsAskedBy given ∧ job.Ends tree (runGenerate tree rest) := by
  rw [runGenerate]
  cases read : readArguments generateSwitches true rest with
  | error fault => exact .inl ⟨by simp [Complaint.outcome], rfl⟩
  | ok given =>
      simp only [notHelp given read, Bool.false_eq_true, if_false]
      cases asked : readJob tree given with
      | error obstacle =>
          left
          cases obstacle <;> simp [Obstacle.outcome, Complaint.outcome]
      | ok job => exact .inr ⟨given, job, rfl, isAskedBy_of_readJob asked, generate_ends tree job⟩

/-- A run of the command that fails leaves all files as they are, unless half of a surrogate pair
stands in the text of the module: then the output is empty. A run that succeeds writes the output and
no other file, and what it writes is the text that the library gives for the arguments. -/
theorem run_generate {tree : FileTree} {arguments rest : List String}
    (invoked : readArguments programSwitches false arguments = .ok ⟨[], "generate" :: rest⟩)
    (notHelp : ∀ given, readArguments generateSwitches true rest = .ok given →
      given.has .help = false) :
    ((run tree arguments).exitCode ≠ 0 →
      (run tree arguments).tree.files = tree.files ∨
      ∃ (given : GenerateArguments) (job : Job) (text : Text),
        readArguments generateSwitches true rest = .ok given ∧ job.IsAskedBy given ∧
        job.moduleText? tree = some text ∧ Utf8.encode? text = none ∧
        tree.HasWritten (run tree arguments).tree (job.outputPath tree) []) ∧
    ((run tree arguments).exitCode = 0 →
      ∃ (given : GenerateArguments) (job : Job) (text : Text) (bytes : List UInt8),
        readArguments generateSwitches true rest = .ok given ∧ job.IsAskedBy given ∧
        job.moduleText? tree = some text ∧ Utf8.encode? text = some bytes ∧
        tree.HasWritten (run tree arguments).tree (job.outputPath tree) bytes) := by
  rw [run_of_readArguments invoked]
  obtain ⟨failed, same⟩ | ⟨given, job, read, asked, ends⟩ := runGenerate_cases tree notHelp
  · exact ⟨fun _ => .inl same, fun succeeded => absurd succeeded failed⟩
  · cases ends with
    | @written text bytes made encoded succeeded put =>
        exact ⟨fun failed => absurd succeeded failed,
          fun _ => ⟨given, job, text, bytes, read, asked, made, encoded, put⟩⟩
    | @surrogate text made broken failed put =>
        exact ⟨fun _ => .inr ⟨given, job, text, read, asked, made, broken, put⟩,
          fun succeeded => absurd (failed.symm.trans succeeded) (by decide)⟩
    | untouched failed same =>
        exact ⟨fun _ => .inl same, fun succeeded => absurd succeeded failed⟩

/-- A snapshot of one enum, whose name is given as it is written there. -/
def enumTree (name : String) : FileTree where
  files := [(["d.json"],
    Utf8.encode ("\x7b\"datamodel\": \x7b\"enums\": [\x7b\"name\": \"" ++ name ++ "\"\x7d]\x7d\x7d"))]
  directories := []
  working := []

def enumArguments : List String := ["generate", "-s", "d.json", "-o", "v.ts"]

theorem not_help_enumArguments (given : GenerateArguments)
    (read : readArguments generateSwitches true enumArguments.tail = .ok given) :
    given.has .help = false := by
  have known : readArguments generateSwitches true enumArguments.tail =
      .ok ⟨[(.schema, "d.json"), (.output, "v.ts")], []⟩ := by rfl
  obtain rfl := Except.ok.inj (known.symm.trans read)
  rfl

theorem run_generate_enumTree :
    (run (enumTree "Role") enumArguments).exitCode = 0 ∧
    ∃ (given : GenerateArguments) (job : Job) (text : Text) (bytes : List UInt8),
      readArguments generateSwitches true enumArguments.tail = .ok given ∧ job.IsAskedBy given ∧
      job.moduleText? (enumTree "Role") = some text ∧ Utf8.encode? text = some bytes ∧
      (enumTree "Role").HasWritten (run (enumTree "Role") enumArguments).tree
        (job.outputPath (enumTree "Role")) bytes := by
  have succeeded : (run (enumTree "Role") enumArguments).exitCode = 0 := by decide +kernel
  have invoked : readArguments programSwitches false enumArguments =
      .ok ⟨[], "generate" :: enumArguments.tail⟩ := by rfl
  exact ⟨succeeded, (run_generate invoked not_help_enumArguments).2 succeeded⟩

/-- A run that fails and creates its output nevertheless. -/
theorem run_generate_surrogate :
    (run (enumTree "e\\ud800") enumArguments).exitCode = 1 ∧
    (run (enumTree "e\\ud800") enumArguments).breakdown = some .surrogate ∧
    (enumTree "e\\ud800").fileAt? ["v.ts"] = none ∧
    (run (enumTree "e\\ud800") enumArguments).tree.fileAt? ["v.ts"] = some [] := by
  decide +kernel

end CommandLine

end ZodValidators
