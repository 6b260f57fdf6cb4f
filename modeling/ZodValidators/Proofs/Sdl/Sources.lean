import ZodValidators.Proofs.Sdl.Documents

/-!
# Documents that are read one after the other

A schema is built in place: every definition changes it in small steps, and a failure does not take
back what was done before it. Still a document with a fault leaves the schema as it was, and the
documents without one build what their definitions build as a single document.
-/

set_option autoImplicit false

namespace ZodValidators

/-- The schema with one more field in an input type, if it is there. -/
def Schema.appendField (schema : Schema) (name : String) (field : Field) : Schema :=
  match schema.inputs.find? name with
  | some existing => schema.putInput name { existing with fields := existing.fields ++ [field] }
  | none => schema

namespace Sdl

/-! ## Building in place -/

/-- Changes of the schema that is being built. What was changed before a failure stays changed. -/
abbrev Building (α : Type) : Type := ExceptT LoadFailure (StateM Schema) α

/-- The outcome and the schema that is left. -/
def Building.runOn {α : Type} (building : Building α) (schema : Schema) :
    Except LoadFailure α × Schema :=
  StateT.run (ExceptT.run building) schema

/-- The fields of an input type that is known are compared with those that it had before. -/
def recordInput (name : String) (fields : List Field) (description : Option Text) :
    Building Unit := do
  let schema ← get
  match schema.inputs.find? name with
  | some existing =>
    let known := existing.fields.map Field.name
    (fields.filter fun field => !known.contains field.name).forM fun field =>
      modify (·.appendField name field)
  | none => modify (·.putInput name { name, fields, description })

def record : Definition → Building Unit
  | .scalar name => modify (·.declareScalar name)
  | .enumeration name values description =>
    modify (·.putEnum name {
      name, values := values.map Text.ofString, origin := "model"
      description := description.map Text.ofString })
  | .object name fields =>
    match rootKind? name with
    | some kind => fields.forM fun field => modify (·.addOperation (field.operation kind))
    | none => pure ()
  | .input name fields description =>
    recordInput name (fields.map InputValue.field) (description.map Text.ofString)
  | .other => pure ()

def readSource (text : List Char) : Building Unit :=
  match parse text with
  | .ok document => document.forM record
  | .error fault => throw (.syntaxFault "<string>" fault)

/-- Reads documents one after the other, also after a failure, and gives the outcome of each. -/
def readSources (texts : List (List Char)) : StateM Schema (List (Except LoadFailure Unit)) :=
  texts.mapM fun text => (readSource text).run

/-! ## What one step does -/

section Steps

variable {α : Type} (schema : Schema)

theorem runOn_modify (change : Schema → Schema) :
    Building.runOn (modify change) schema = (.ok (), change schema) := rfl

/-- A failure ends the building with what there is. -/
theorem runOn_bind (first : Building Unit) (next : Unit → Building α) :
    Building.runOn (first >>= next) schema =
      match first.runOn schema with
      | (.ok (), middle) => (next ()).runOn middle
      | (.error failure, middle) => (.error failure, middle) := by
  change (match first.runOn schema with
    | (result, middle) => StateT.run (ExceptT.bindCont next result) middle) = _
  obtain ⟨result, middle⟩ := first.runOn schema
  cases result <;> rfl

/-- Steps that never fail are taken one after the other. -/
theorem runOn_forM {ι : Type} {step : ι → Building Unit} {change : Schema → ι → Schema}
    (steps : ∀ item schema, (step item).runOn schema = (.ok (), change schema item))
    (items : List ι) :
    (items.forM step).runOn schema = (.ok (), items.foldl change schema) := by
  induction items generalizing schema with
  | nil => rfl
  | cons item rest ih =>
      change Building.runOn (step item >>= fun _ => rest.forM step) schema = _
      rw [runOn_bind, steps]
      exact ih _

theorem foldl_appendField {name : String} {existing : InputType}
    (found : schema.inputs.find? name = some existing) (fields : List Field) :
    fields.foldl (fun schema field => schema.appendField name field) schema =
      schema.putInput name { existing with fields := existing.fields ++ fields } := by
  -- Every step writes the input type again, so what is found under the name grows with it.
  induction fields generalizing schema existing with
  | nil =>
      rw [List.foldl_nil, List.append_nil, Schema.putInput, Table.insert_eq_self found]
  | cons field rest ih =>
      have appended : schema.appendField name field =
          schema.putInput name { existing with fields := existing.fields ++ [field] } := by
        rw [Schema.appendField, found]
      have foundAgain : (schema.appendField name field).inputs.find? name =
          some { existing with fields := existing.fields ++ [field] } := by
        rw [appended, Schema.putInput, Table.find?_insert, if_pos rfl]
      rw [List.foldl_cons, ih _ foundAgain, appended, Schema.putInput, Schema.putInput,
        Schema.putInput, Table.insert_insert, List.append_assoc]
      rfl

theorem runOn_get_bind (next : Schema → Building α) :
    Building.runOn (get >>= next) schema = (next schema).runOn schema := rfl

/-- Appending the new fields one by one comes to merging them. -/
theorem runOn_recordInput (name : String) (fields : List Field) (description : Option Text) :
    (recordInput name fields description).runOn schema =
      (.ok (), schema.addInput name fields description) := by
  rw [recordInput, runOn_get_bind, Schema.addInput]
  cases found : schema.inputs.find? name with
  | none => rfl
  | some existing =>
      simp only
      rw [runOn_forM schema (fun field schema => runOn_modify schema (·.appendField name field)),
        foldl_appendField schema found]
      rfl

theorem runOn_record (definition : Definition) :
    (record definition).runOn schema = (.ok (), schema.addDefinition definition) := by
  cases definition with
  | scalar name => rfl
  | enumeration name values description => rfl
  | object name fields =>
      rw [record, Schema.addDefinition]
      cases rootKind? name with
      | none => rfl
      | some kind =>
          exact runOn_forM schema
            (fun field schema => runOn_modify schema (·.addOperation (field.operation kind))) fields
  | input name fields description => exact runOn_recordInput schema name _ _
  | other => rfl

/-- Definitions are recorded one after the other, and none of them can fail. -/
theorem runOn_records (definitions : List Definition) :
    Building.runOn (definitions.forM record) schema = (.ok (), schema.addDocument definitions) :=
  runOn_forM schema (fun definition schema => runOn_record schema definition) definitions

end Steps

/-! ## Sequences of documents -/

def sourceOutcome (text : List Char) : Except LoadFailure Unit :=
  match parse text with
  | .ok _ => .ok ()
  | .error fault => .error (.syntaxFault "<string>" fault)

def soundDefinitions (texts : List (List Char)) : List Definition :=
  (texts.filterMap fun text => (parse text).toOption).flatten

theorem runOn_readSource (schema : Schema) (text : List Char) :
    (readSource text).runOn schema =
      match addText schema text with
      | .ok next => (.ok (), next)
      | .error fault => (.error (.syntaxFault "<string>" fault), schema) := by
  rw [readSource, addText]
  cases parse text with
  | ok document => exact runOn_records schema document
  | error fault => rfl

theorem soundDefinitions_cons (text : List Char) (rest : List (List Char)) :
    soundDefinitions (text :: rest) =
      ((parse text).toOption.getD []) ++ soundDefinitions rest := by
  rw [soundDefinitions, List.filterMap_cons]
  cases parse text <;> rfl

theorem run_readSources_cons (schema : Schema) (text : List Char) (rest : List (List Char)) :
    StateT.run (readSources (text :: rest)) schema =
      let (outcome, next) := (readSource text).runOn schema
      let (outcomes, last) := StateT.run (readSources rest) next
      (outcome :: outcomes, last) := by
  rw [readSources, List.mapM_cons]
  rfl

/-- A document with a fault is passed over, the others are added one after the other. -/
theorem run_readSources (schema : Schema) (texts : List (List Char)) :
    StateT.run (readSources texts) schema =
      (texts.map sourceOutcome, schema.addDocument (soundDefinitions texts)) := by
  induction texts generalizing schema with
  | nil => rfl
  | cons text rest ih =>
      rw [run_readSources_cons, runOn_readSource, addText, soundDefinitions_cons, List.map_cons,
        sourceOutcome]
      cases parse text with
      | error fault => simp only [ih]; rfl
      | ok document =>
          simp only [ih, Except.map]
          have added : (schema.addDocument document).addDocument (soundDefinitions rest) =
              schema.addDocument (document ++ soundDefinitions rest) := List.foldl_append.symm
          rw [added]
          rfl

/-- A document with a fault leaves the schema as it was, whatever stands before the fault. After a
sequence of documents the schema is what one document builds that has the definitions of all
documents without a fault, in their order. -/
theorem readSources_eq_records (texts : List (List Char)) :
    (∀ schema text, (readSource text).runOn schema =
      match addText schema text with
      | .ok next => (.ok (), next)
      | .error fault => (.error (.syntaxFault "<string>" fault), schema)) ∧
    (StateT.run (readSources texts) {}).1 = texts.map sourceOutcome ∧
    Building.runOn ((soundDefinitions texts).forM record) {} =
      (.ok (), (StateT.run (readSources texts) {}).2) := by
  refine ⟨runOn_readSource, ?_, ?_⟩
  · rw [run_readSources]
  · rw [run_readSources]
    exact runOn_records {} _

example : (StateT.run (readSources ["scalar A scalar".toList, "scalar B".toList]) {}).2.scalars =
    [("B" : Text)] := by
  decide +kernel

end Sdl

end ZodValidators
