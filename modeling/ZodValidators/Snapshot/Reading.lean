import ZodValidators.Json.Basic
import ZodValidators.Metadata
import ZodValidators.Snapshot.Document
import ZodValidators.Snapshot.Issue

/-!
# Reading snapshots from JSON

`readDocument` reads a JSON value as a snapshot document. A member may be spelled in two ways, of
which the first one goes before the other; members that are not documented are ignored.
-/

set_option autoImplicit false

namespace ZodValidators.Snapshot

open ZodValidators.Json

abbrev Reader (α : Type) := Json.Value → Checked α

/-- A text. Nothing else is converted to one, and half of a surrogate pair may stand in it. -/
def readText : Reader Text
  | .text content => .valid content
  | _ => .issue .notAText

def trueTexts : List String := ["1", "on", "t", "true", "y", "yes"]

def falseTexts : List String := ["0", "off", "f", "false", "n", "no"]

def booleanOfInteger (value : Int) : Checked Bool :=
  if value = 0 then .valid false
  else if value = 1 then .valid true
  else .issue .unknownBoolean

/-- The boolean that a text stands for, whatever the case of its ASCII letters. -/
def booleanOfText (content : Text) : Checked Bool :=
  match content.chars? with
  | none => .issue .brokenText
  | some characters =>
    let spelled := String.ofList (characters.map Char.toLower)
    if trueTexts.contains spelled then .valid true
    else if falseTexts.contains spelled then .valid false
    else .issue .unknownBoolean

/-- The least integer that is too great for 64 bits with a sign, which is `2 ^ 63`. -/
def wordBound : Int := 0x8000000000000000

/-- A boolean, or a text or a number that stands for one. Numbers beyond 64 bits and numbers that
are not integers are no candidates. -/
def readBoolean : Reader Bool
  | .boolean value => .valid value
  | .text content => booleanOfText content
  | .integer value =>
    if -wordBound ≤ value ∧ value < wordBound then booleanOfInteger value else .issue .notABoolean
  | .real value =>
    match value.integer? with
    | some value =>
      if -wordBound < value ∧ value < wordBound then booleanOfInteger value else .issue .notABoolean
    | none => .issue .notABoolean
  | _ => .issue .notABoolean

def readNullable {α : Type} (read : Reader α) : Reader (Option α)
  | .null => .valid none
  | value => (read value).map some

def readItems {α : Type} (read : Reader α) (index : Nat) : List Json.Value → Checked (List α)
  | [] => .valid []
  | item :: rest =>
    List.cons <$> (read item).inside (.item index) <*> readItems read (index + 1) rest

def readList {α : Type} (read : Reader α) : Reader (List α)
  | .array items => readItems read 0 items
  | _ => .issue .notAList

def readObject {α : Type} (model : String) (read : List (Text × Json.Value) → Checked α) :
    Reader α
  | .object members => read members
  | _ => .issue (.notAnObject model)

structure Key where
  name : String
  otherName : String
deriving DecidableEq, Repr

def Key.plain (name : String) : Key := ⟨name, name⟩

/-- The value of a member by the first of its spellings that is there. -/
def Key.find? (key : Key) (members : List (Text × Json.Value)) : Option Json.Value :=
  match member? key.name members with
  | some value => some value
  | none => member? key.otherName members

/-- A member that has to be there. Issues are located at the first spelling of its name, also where
the value was found under the other one. -/
def required {α : Type} (key : Key) (read : Reader α) (members : List (Text × Json.Value)) :
    Checked α :=
  (match key.find? members with
    | some value => read value
    | none => .issue .missing).inside (.member key.name)

/-- A member that may be missing. Its issues are located as those of `required` are. -/
def withDefault {α : Type} (key : Key) (read : Reader α) (absent : α)
    (members : List (Text × Json.Value)) : Checked α :=
  match key.find? members with
  | some value => (read value).inside (.member key.name)
  | none => .valid absent

def readCandidate : Reader CandidateEntry :=
  readObject "SnapshotTypeRef" fun members =>
    CandidateEntry.mk
      <$> required (.plain "type") readText members
      <*> withDefault (.plain "location") readText Location.scalar members
      <*> withDefault ⟨"isList", "is_list"⟩ readBoolean false members

def readField : Reader FieldEntry :=
  readObject "SnapshotField" fun members =>
    FieldEntry.mk
      <$> required (.plain "name") readText members
      <*> required ⟨"inputTypes", "input_types"⟩ (readList readCandidate) members
      <*> withDefault ⟨"isRequired", "is_required"⟩ readBoolean false members
      <*> withDefault ⟨"isNullable", "is_nullable"⟩ readBoolean false members
      <*> withDefault ⟨"isOptional", "is_optional"⟩ (readNullable readBoolean) none members
      <*> withDefault ⟨"zodValidatorString", "zod_validator_string"⟩ (readNullable readText) none
        members
      <*> withDefault ⟨"zodCustomErrors", "zod_custom_errors"⟩ (readNullable readText) none members

def readInputType : Reader InputTypeEntry :=
  readObject "SnapshotInputType" fun members =>
    InputTypeEntry.mk
      <$> required (.plain "name") readText members
      <*> withDefault (.plain "fields") (readList readField) [] members

def readOperation : Reader OperationEntry :=
  readObject "SnapshotOperation" fun members =>
    OperationEntry.mk
      <$> required (.plain "name") readText members
      <*> withDefault ⟨"argName", "arg_name"⟩ (readNullable readText) none members
      <*> withDefault (.plain "args") (readList readField) [] members

def readOutputType : Reader OutputTypeEntry :=
  readObject "SnapshotOutputType" fun members =>
    OutputTypeEntry.mk
      <$> required (.plain "name") readText members
      <*> withDefault (.plain "fields") (readList readOperation) [] members

def readNamedValue : Reader Text :=
  readObject "SnapshotEnumValue" fun members => required (.plain "name") readText members

/-- An enum value: an object with a name, or a text. If it is neither, the issues of both are
reported. -/
def readEnumValue : Reader Text := fun value =>
  match readNamedValue value, readText value with
  | .valid name, _ => .valid name
  | .invalid _, .valid name => .valid name
  | named, plain =>
    (fun _ name => name) <$> named.inside (.member "SnapshotEnumValue")
      <*> plain.inside (.member "str")

def readEnum : Reader EnumEntry :=
  readObject "SnapshotEnum" fun members =>
    EnumEntry.mk
      <$> required (.plain "name") readText members
      <*> withDefault (.plain "values") (readList readEnumValue) [] members

/-- The list that an object keeps under the name `prisma`. -/
def readGroup {α : Type} (model : String) (read : Reader α) : Reader (List α) :=
  readObject model fun members => withDefault (.plain "prisma") (readList read) [] members

def readSchema : Reader (List EnumEntry × List InputTypeEntry × List OutputTypeEntry) :=
  readObject "SnapshotSchema" fun members =>
    (fun enums inputs outputs => (enums, inputs, outputs))
      <$> withDefault ⟨"enumTypes", "enum_types"⟩ (readGroup "SnapshotEnumTypes" readEnum) []
        members
      <*> withDefault ⟨"inputObjectTypes", "input_object_types"⟩
        (readGroup "SnapshotInputObjectTypes" readInputType) [] members
      <*> withDefault ⟨"outputObjectTypes", "output_object_types"⟩
        (readGroup "SnapshotOutputObjectTypes" readOutputType) [] members

def readDataModel : Reader (List EnumEntry) :=
  readObject "SnapshotDatamodel" fun members =>
    withDefault (.plain "enums") (readList readEnum) [] members

def readDocument : Reader Document :=
  readObject "Snapshot" fun members =>
    (fun (enums, inputs, outputs) modelEnums => ⟨enums, inputs, outputs, modelEnums⟩)
      <$> withDefault ⟨"schema", "schema_"⟩ readSchema ([], [], []) members
      <*> withDefault (.plain "datamodel") readDataModel [] members

end ZodValidators.Snapshot
