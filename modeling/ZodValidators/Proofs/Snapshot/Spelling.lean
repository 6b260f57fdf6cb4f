import Mathlib.Data.List.Pairwise
import Mathlib.Logic.Relation
import ZodValidators.Snapshot.Loading

/-!
# Spellings of documented members

A snapshot means the same in every spelling. Documented members may be respelled, members that are
not documented may be added or left out, and members may be put in another order, in any objects of
a document and any number of times: loading gives the same metadata, or the same issues.
-/

set_option autoImplicit false

namespace ZodValidators.Snapshot

/-- The names under which a member may stand. -/
def Key.spellings (key : Key) : List Text := [(key.name : Text), (key.otherName : Text)]

/-- Which parts of a value are objects with documented members. -/
inductive Shape where
  | leaf
  | list (item : Shape)
  | object (documented : List (Key × Shape))

namespace Shape

/-! ## The documented members -/

def candidateMembers : List (Key × Shape) := [
  (.plain "type", leaf),
  (.plain "location", leaf),
  (⟨"isList", "is_list"⟩, leaf)]

def fieldMembers : List (Key × Shape) := [
  (.plain "name", leaf),
  (⟨"inputTypes", "input_types"⟩, list (object candidateMembers)),
  (⟨"isRequired", "is_required"⟩, leaf),
  (⟨"isNullable", "is_nullable"⟩, leaf),
  (⟨"isOptional", "is_optional"⟩, leaf),
  (⟨"zodValidatorString", "zod_validator_string"⟩, leaf),
  (⟨"zodCustomErrors", "zod_custom_errors"⟩, leaf)]

def inputTypeMembers : List (Key × Shape) := [
  (.plain "name", leaf),
  (.plain "fields", list (object fieldMembers))]

def operationMembers : List (Key × Shape) := [
  (.plain "name", leaf),
  (⟨"argName", "arg_name"⟩, leaf),
  (.plain "args", list (object fieldMembers))]

def outputTypeMembers : List (Key × Shape) := [
  (.plain "name", leaf),
  (.plain "fields", list (object operationMembers))]

/-- An enum value may also be a text, which has no members. -/
def enumValueMembers : List (Key × Shape) := [(.plain "name", leaf)]

def enumMembers : List (Key × Shape) := [
  (.plain "name", leaf),
  (.plain "values", list (object enumValueMembers))]

def groupMembers (item : Shape) : List (Key × Shape) := [(.plain "prisma", list item)]

def schemaMembers : List (Key × Shape) := [
  (⟨"enumTypes", "enum_types"⟩, object (groupMembers (object enumMembers))),
  (⟨"inputObjectTypes", "input_object_types"⟩, object (groupMembers (object inputTypeMembers))),
  (⟨"outputObjectTypes", "output_object_types"⟩,
    object (groupMembers (object outputTypeMembers)))]

def dataModelMembers : List (Key × Shape) := [(.plain "enums", list (object enumMembers))]

def documentMembers : List (Key × Shape) := [
  (⟨"schema", "schema_"⟩, object schemaMembers),
  (.plain "datamodel", object dataModelMembers)]

def document : Shape := object documentMembers

/-! ## Edits -/

/-- One change in one object of a value that leaves its meaning. -/
inductive Edits : Shape → Json.Value → Json.Value → Prop where
  /-- The other spelling takes the place of the first one. The object has neither of them elsewhere. -/
  | respelled {documented : List (Key × Shape)} {key : Key} {shape : Shape}
      {before behind : List (Text × Json.Value)} {value : Json.Value} :
      (key, shape) ∈ documented →
      (∀ member ∈ before ++ behind, member.1 ∉ key.spellings) →
      Edits (object documented)
        (.object (before ++ ((key.name : Text), value) :: behind))
        (.object (before ++ ((key.otherName : Text), value) :: behind))
  | added {documented : List (Key × Shape)} {before behind : List (Text × Json.Value)}
      {name : Text} {value : Json.Value} :
      (∀ entry ∈ documented, name ∉ entry.1.spellings) →
      Edits (object documented)
        (.object (before ++ behind)) (.object (before ++ (name, value) :: behind))
  | reordered {documented : List (Key × Shape)} {members others : List (Text × Json.Value)} :
      (members.map Prod.fst).Nodup → members.Perm others →
      Edits (object documented) (.object members) (.object others)
  | inMember {documented : List (Key × Shape)} {key : Key} {shape : Shape} {name : Text}
      {before behind : List (Text × Json.Value)} {left right : Json.Value} :
      (key, shape) ∈ documented → name ∈ key.spellings → Edits shape left right →
      Edits (object documented)
        (.object (before ++ (name, left) :: behind)) (.object (before ++ (name, right) :: behind))
  | inItem {shape : Shape} {before behind : List Json.Value} {left right : Json.Value} :
      Edits shape left right →
      Edits (list shape) (.array (before ++ left :: behind)) (.array (before ++ right :: behind))

end Shape

/-! ## Finding members -/

open Json (member?)

theorem member?_append (name : Text) (before behind : List (Text × Json.Value)) :
    member? name (before ++ behind) = (member? name before).or (member? name behind) := by
  induction before with
  | nil => rfl
  | cons member rest ih =>
      obtain ⟨other, value⟩ := member
      rw [List.cons_append, member?, member?, ih]
      split <;> rfl

theorem member?_cons_of_ne {name other : Text} (different : other ≠ name) (value : Json.Value)
    (members : List (Text × Json.Value)) :
    member? name ((other, value) :: members) = member? name members := if_neg different

theorem member?_eq_none {name : Text} {members : List (Text × Json.Value)}
    (absent : ∀ member ∈ members, member.1 ≠ name) : member? name members = none := by
  induction members with
  | nil => rfl
  | cons member rest ih =>
      rw [member?_cons_of_ne (absent member List.mem_cons_self)]
      exact ih fun later listed => absent later (List.mem_cons_of_mem _ listed)

theorem member?_perm {members others : List (Text × Json.Value)} (same : members.Perm others)
    (distinct : (members.map Prod.fst).Nodup) (name : Text) :
    member? name members = member? name others := by
  induction same with
  | nil => rfl
  | cons member _ ih =>
      rw [List.map_cons, List.nodup_cons] at distinct
      rw [member?, member?, ih distinct.2]
  | swap first second rest =>
      have different : second.1 ≠ first.1 := by
        intro equal
        simp [equal] at distinct
      by_cases found : first.1 = name
      · have other : second.1 ≠ name := found ▸ different
        simp [member?, found, other]
      · simp [member?, found]
  | trans permuted _ ih ihOthers =>
      exact (ih distinct).trans (ihOthers ((permuted.map Prod.fst).nodup_iff.mp distinct))

namespace Key

variable {key : Key} {before behind : List (Text × Json.Value)}

theorem find?_eq_or (key : Key) (members : List (Text × Json.Value)) :
    key.find? members = (member? key.name members).or (member? key.otherName members) := by
  rw [find?]
  cases member? key.name members <;> rfl

theorem ne_of_not_mem_spellings {name : Text} (absent : name ∉ key.spellings) :
    name ≠ key.name ∧ name ≠ key.otherName := by
  rw [spellings, List.mem_cons, List.mem_singleton, not_or] at absent
  exact absent

/-- A member with another name is passed over. -/
theorem find?_append_cons {name : Text} (other : name ∉ key.spellings) (value : Json.Value) :
    key.find? (before ++ (name, value) :: behind) = key.find? (before ++ behind) := by
  obtain ⟨first, second⟩ := ne_of_not_mem_spellings other
  rw [find?_eq_or, find?_eq_or, member?_append, member?_append, member?_append, member?_append,
    member?_cons_of_ne first, member?_cons_of_ne second]

/-- A member that stands alone is found in either spelling. -/
theorem find?_of_alone (alone : ∀ member ∈ before ++ behind, member.1 ∉ key.spellings)
    {name : Text} (spelled : name ∈ key.spellings) (value : Json.Value) :
    key.find? (before ++ (name, value) :: behind) = some value := by
  have absentBefore (spelling : Text) (listed : spelling ∈ key.spellings) :
      member? spelling before = none :=
    member?_eq_none fun member inBefore same =>
      alone member (List.mem_append_left _ inBefore) (same ▸ listed)
  have absentBehind (spelling : Text) (listed : spelling ∈ key.spellings) :
      member? spelling behind = none :=
    member?_eq_none fun member inBehind same =>
      alone member (List.mem_append_right _ inBehind) (same ▸ listed)
  have first : (key.name : Text) ∈ key.spellings := List.mem_cons_self
  have second : (key.otherName : Text) ∈ key.spellings := List.mem_cons_of_mem _ List.mem_cons_self
  rw [find?_eq_or, member?_append, member?_append, absentBefore _ first, absentBefore _ second,
    Option.none_or, Option.none_or, member?, member?, absentBehind _ first, absentBehind _ second]
  rcases List.mem_cons.mp spelled with rfl | later
  · rw [if_pos rfl, Option.some_or]
  · rw [List.mem_singleton.mp later, if_pos rfl]
    split <;> rfl

theorem find?_perm {members others : List (Text × Json.Value)} (same : members.Perm others)
    (distinct : (members.map Prod.fst).Nodup) : key.find? members = key.find? others := by
  rw [find?_eq_or, find?_eq_or, member?_perm same distinct, member?_perm same distinct]

variable {α : Type} {read : Reader α}

theorem map_member?_append_cons {left right : Json.Value} (same : read left = read right)
    (name other : Text) :
    (member? name (before ++ (other, left) :: behind)).map read =
      (member? name (before ++ (other, right) :: behind)).map read := by
  rw [member?_append, member?_append, Option.map_or, Option.map_or, member?, member?]
  split
  · rw [Option.map_some, Option.map_some, same]
  · rfl

/-- Values that are read alike may stand for each other. -/
theorem map_find?_append_cons {left right : Json.Value} (same : read left = read right)
    (key : Key) (name : Text) :
    (key.find? (before ++ (name, left) :: behind)).map read =
      (key.find? (before ++ (name, right) :: behind)).map read := by
  rw [find?_eq_or, find?_eq_or, Option.map_or, Option.map_or, map_member?_append_cons same,
    map_member?_append_cons same]

end Key

/-! ## Readers -/

namespace Shape

variable {α β : Type} {documented : List (Key × Shape)} {shape : Shape} {key : Key}
  {read : Reader α}

/-- The reader sees nothing of a value that edits change. -/
def Covers (shape : Shape) (read : Reader α) : Prop :=
  ∀ ⦃left right : Json.Value⦄, shape.Edits left right → read left = read right

/-- The same of what is read from the members of an object. -/
def CoversMembers (documented : List (Key × Shape))
    (read : List (Text × Json.Value) → Checked α) : Prop :=
  ∀ ⦃left right : List (Text × Json.Value)⦄,
    (object documented).Edits (.object left) (.object right) → read left = read right

/-- No name spells two of the documented members. -/
abbrev HasDistinctSpellings (documented : List (Key × Shape)) : Prop :=
  documented.Pairwise fun entry other => ∀ name ∈ entry.1.spellings, name ∉ other.1.spellings

theorem HasDistinctSpellings.eq_or_apart (distinct : HasDistinctSpellings documented)
    {entry other : Key × Shape} (member : entry ∈ documented) (otherMember : other ∈ documented) :
    entry = other ∨ ∀ name ∈ entry.1.spellings, name ∉ other.1.spellings := by
  rcases eq_or_ne entry other with same | different
  · exact .inl same
  · have symmetric : Std.Symm fun entry other : Key × Shape =>
        ∀ name ∈ entry.1.spellings, name ∉ other.1.spellings :=
      ⟨fun _ _ apart name spelled spelledToo => apart name spelledToo spelled⟩
    exact .inr (distinct.forall member otherMember different)

/-- An edit changes nothing of what is read from a documented member. -/
theorem Edits.map_find?_eq (distinct : HasDistinctSpellings documented)
    (member : (key, shape) ∈ documented) (covers : shape.Covers read)
    {left right : List (Text × Json.Value)}
    (edit : (object documented).Edits (.object left) (.object right)) :
    (key.find? left).map read = (key.find? right).map read := by
  -- A respelled or changed member is either this one or shares no spelling with it.
  cases edit with
  | respelled respelled alone =>
      rcases distinct.eq_or_apart respelled member with same | apart
      · obtain ⟨rfl, rfl⟩ := Prod.mk.inj same
        rw [Key.find?_of_alone alone List.mem_cons_self,
          Key.find?_of_alone alone (List.mem_cons_of_mem _ List.mem_cons_self)]
      · rw [Key.find?_append_cons (apart _ List.mem_cons_self),
          Key.find?_append_cons (apart _ (List.mem_cons_of_mem _ List.mem_cons_self))]
  | added undocumented => rw [Key.find?_append_cons (undocumented _ member)]
  | reordered distinctNames same => rw [Key.find?_perm same distinctNames]
  | inMember changed spelled inner =>
      rcases distinct.eq_or_apart changed member with same | apart
      · obtain ⟨rfl, rfl⟩ := Prod.mk.inj same
        exact Key.map_find?_append_cons (covers inner) _ _
      · rw [Key.find?_append_cons (apart _ spelled), Key.find?_append_cons (apart _ spelled)]

theorem covers_leaf (read : Reader α) : leaf.Covers read := by
  intro left right edit
  cases edit

theorem readItems_append_cons {left right : Json.Value} (same : read left = read right)
    (index : Nat) (before behind : List Json.Value) :
    readItems read index (before ++ left :: behind) =
      readItems read index (before ++ right :: behind) := by
  induction before generalizing index with
  | nil => rw [List.nil_append, List.nil_append, readItems, readItems, same]
  | cons item rest ih => rw [List.cons_append, List.cons_append, readItems, readItems, ih]

theorem Covers.list (covers : shape.Covers read) : (list shape).Covers (readList read) := by
  intro left right edit
  cases edit with
  | inItem inner => exact readItems_append_cons (covers inner) 0 _ _

namespace CoversMembers

theorem object {read : List (Text × Json.Value) → Checked α} (covers : CoversMembers documented read)
    (model : String) : (object documented).Covers (readObject model read) := by
  intro left right edit
  have objects : ∃ members others, left = .object members ∧ right = .object others := by
    cases edit <;> exact ⟨_, _, rfl, rfl⟩
  obtain ⟨members, others, rfl, rfl⟩ := objects
  exact covers edit

theorem map {read : List (Text × Json.Value) → Checked α} (change : α → β)
    (covers : CoversMembers documented read) :
    CoversMembers documented fun members => change <$> read members :=
  fun _ _ edit => congrArg (change <$> ·) (covers edit)

theorem seq {read : List (Text × Json.Value) → Checked (α → β)}
    {argument : List (Text × Json.Value) → Checked α} (covers : CoversMembers documented read)
    (coversArgument : CoversMembers documented argument) :
    CoversMembers documented fun members => read members <*> argument members := by
  intro left right edit
  dsimp only
  rw [covers edit, coversArgument edit]

theorem required (distinct : HasDistinctSpellings documented) (member : (key, shape) ∈ documented)
    (covers : shape.Covers read) : CoversMembers documented (required key read) := by
  have seen (members : List (Text × Json.Value)) : Snapshot.required key read members =
      (((key.find? members).map read).getD (.issue .missing)).inside (.member key.name) := by
    rw [Snapshot.required]
    cases key.find? members <;> rfl
  intro left right edit
  rw [seen, seen, edit.map_find?_eq distinct member covers]

theorem withDefault (distinct : HasDistinctSpellings documented)
    (member : (key, shape) ∈ documented) (covers : shape.Covers read) (absent : α) :
    CoversMembers documented (withDefault key read absent) := by
  have seen (members : List (Text × Json.Value)) : Snapshot.withDefault key read absent members =
      ((key.find? members).map read).elim (.valid absent) (·.inside (.member key.name)) := by
    rw [Snapshot.withDefault]
    cases key.find? members <;> rfl
  intro left right edit
  rw [seen, seen, edit.map_find?_eq distinct member covers]

end CoversMembers

/-! ## The readers of a snapshot -/

theorem covers_readCandidate : (object candidateMembers).Covers readCandidate := by
  have distinct : HasDistinctSpellings candidateMembers := by
    simp [candidateMembers, Key.spellings, Key.plain, Text.ofString_inj]
  have type : CoversMembers candidateMembers (required (.plain "type") readText) :=
    .required distinct (by simp [candidateMembers]) (covers_leaf _)
  have location : CoversMembers candidateMembers
      (withDefault (.plain "location") readText Location.scalar) :=
    .withDefault distinct (by simp [candidateMembers]) (covers_leaf _) _
  have isList : CoversMembers candidateMembers
      (withDefault ⟨"isList", "is_list"⟩ readBoolean false) :=
    .withDefault distinct (by simp [candidateMembers]) (covers_leaf _) _
  exact (((type.map CandidateEntry.mk).seq location).seq isList).object _

theorem covers_readField : (object fieldMembers).Covers readField := by
  have distinct : HasDistinctSpellings fieldMembers := by
    simp [fieldMembers, Key.spellings, Key.plain, Text.ofString_inj]
  have name : CoversMembers fieldMembers (required (.plain "name") readText) :=
    .required distinct (by simp [fieldMembers]) (covers_leaf _)
  have inputTypes : CoversMembers fieldMembers
      (required ⟨"inputTypes", "input_types"⟩ (readList readCandidate)) :=
    .required distinct (by simp [fieldMembers]) covers_readCandidate.list
  have isRequired : CoversMembers fieldMembers
      (withDefault ⟨"isRequired", "is_required"⟩ readBoolean false) :=
    .withDefault distinct (by simp [fieldMembers]) (covers_leaf _) _
  have isNullable : CoversMembers fieldMembers
      (withDefault ⟨"isNullable", "is_nullable"⟩ readBoolean false) :=
    .withDefault distinct (by simp [fieldMembers]) (covers_leaf _) _
  have isOptional : CoversMembers fieldMembers
      (withDefault ⟨"isOptional", "is_optional"⟩ (readNullable readBoolean) none) :=
    .withDefault distinct (by simp [fieldMembers]) (covers_leaf _) _
  have validator : CoversMembers fieldMembers
      (withDefault ⟨"zodValidatorString", "zod_validator_string"⟩ (readNullable readText) none) :=
    .withDefault distinct (by simp [fieldMembers]) (covers_leaf _) _
  have customErrors : CoversMembers fieldMembers
      (withDefault ⟨"zodCustomErrors", "zod_custom_errors"⟩ (readNullable readText) none) :=
    .withDefault distinct (by simp [fieldMembers]) (covers_leaf _) _
  exact (((((((name.map FieldEntry.mk).seq inputTypes).seq isRequired).seq isNullable).seq
    isOptional).seq validator).seq customErrors).object _

theorem covers_readInputType : (object inputTypeMembers).Covers readInputType := by
  have distinct : HasDistinctSpellings inputTypeMembers := by
    simp [inputTypeMembers, Key.spellings, Key.plain, Text.ofString_inj]
  have name : CoversMembers inputTypeMembers (required (.plain "name") readText) :=
    .required distinct (by simp [inputTypeMembers]) (covers_leaf _)
  have fields : CoversMembers inputTypeMembers
      (withDefault (.plain "fields") (readList readField) []) :=
    .withDefault distinct (by simp [inputTypeMembers]) covers_readField.list _
  exact ((name.map InputTypeEntry.mk).seq fields).object _

theorem covers_readOperation : (object operationMembers).Covers readOperation := by
  have distinct : HasDistinctSpellings operationMembers := by
    simp [operationMembers, Key.spellings, Key.plain, Text.ofString_inj]
  have name : CoversMembers operationMembers (required (.plain "name") readText) :=
    .required distinct (by simp [operationMembers]) (covers_leaf _)
  have argName : CoversMembers operationMembers
      (withDefault ⟨"argName", "arg_name"⟩ (readNullable readText) none) :=
    .withDefault distinct (by simp [operationMembers]) (covers_leaf _) _
  have arguments : CoversMembers operationMembers
      (withDefault (.plain "args") (readList readField) []) :=
    .withDefault distinct (by simp [operationMembers]) covers_readField.list _
  exact (((name.map OperationEntry.mk).seq argName).seq arguments).object _

theorem covers_readOutputType : (object outputTypeMembers).Covers readOutputType := by
  have distinct : HasDistinctSpellings outputTypeMembers := by
    simp [outputTypeMembers, Key.spellings, Key.plain, Text.ofString_inj]
  have name : CoversMembers outputTypeMembers (required (.plain "name") readText) :=
    .required distinct (by simp [outputTypeMembers]) (covers_leaf _)
  have fields : CoversMembers outputTypeMembers
      (withDefault (.plain "fields") (readList readOperation) []) :=
    .withDefault distinct (by simp [outputTypeMembers]) covers_readOperation.list _
  exact ((name.map OutputTypeEntry.mk).seq fields).object _

/-- An edit leaves an object an object, so a value that is a text is never concerned. -/
theorem covers_readEnumValue : (object enumValueMembers).Covers readEnumValue := by
  have distinct : HasDistinctSpellings enumValueMembers := List.pairwise_singleton _ _
  have named : (object enumValueMembers).Covers readNamedValue :=
    CoversMembers.object (.required distinct (by simp [enumValueMembers]) (covers_leaf _)) _
  have notText : (object enumValueMembers).Covers readText := by
    intro left right edit
    cases edit <;> rfl
  intro left right edit
  rw [readEnumValue, readEnumValue, named edit, notText edit]

theorem covers_readEnum : (object enumMembers).Covers readEnum := by
  have distinct : HasDistinctSpellings enumMembers := by
    simp [enumMembers, Key.spellings, Key.plain, Text.ofString_inj]
  have name : CoversMembers enumMembers (required (.plain "name") readText) :=
    .required distinct (by simp [enumMembers]) (covers_leaf _)
  have values : CoversMembers enumMembers
      (withDefault (.plain "values") (readList readEnumValue) []) :=
    .withDefault distinct (by simp [enumMembers]) covers_readEnumValue.list _
  exact ((name.map EnumEntry.mk).seq values).object _

theorem Covers.group (covers : shape.Covers read) (model : String) :
    (object (groupMembers shape)).Covers (readGroup model read) := by
  have distinct : HasDistinctSpellings (groupMembers shape) := List.pairwise_singleton _ _
  exact CoversMembers.object
    (.withDefault distinct (by simp [groupMembers]) covers.list _) _

theorem covers_readSchema : (object schemaMembers).Covers readSchema := by
  have distinct : HasDistinctSpellings schemaMembers := by
    simp [schemaMembers, Key.spellings, Text.ofString_inj]
  have enums : CoversMembers schemaMembers
      (withDefault ⟨"enumTypes", "enum_types"⟩ (readGroup "SnapshotEnumTypes" readEnum) []) :=
    .withDefault distinct (by simp [schemaMembers]) (covers_readEnum.group _) _
  have inputs : CoversMembers schemaMembers
      (withDefault ⟨"inputObjectTypes", "input_object_types"⟩
        (readGroup "SnapshotInputObjectTypes" readInputType) []) :=
    .withDefault distinct (by simp [schemaMembers]) (covers_readInputType.group _) _
  have outputs : CoversMembers schemaMembers
      (withDefault ⟨"outputObjectTypes", "output_object_types"⟩
        (readGroup "SnapshotOutputObjectTypes" readOutputType) []) :=
    .withDefault distinct (by simp [schemaMembers]) (covers_readOutputType.group _) _
  exact (((enums.map _).seq inputs).seq outputs).object _

theorem covers_readDataModel : (object dataModelMembers).Covers readDataModel := by
  have distinct : HasDistinctSpellings dataModelMembers := List.pairwise_singleton _ _
  exact CoversMembers.object
    (.withDefault distinct (by simp [dataModelMembers]) covers_readEnum.list _) _

theorem covers_readDocument : document.Covers readDocument := by
  have distinct : HasDistinctSpellings documentMembers := by
    simp [documentMembers, Key.spellings, Key.plain, Text.ofString_inj]
  have schema : CoversMembers documentMembers
      (withDefault ⟨"schema", "schema_"⟩ readSchema ([], [], [])) :=
    .withDefault distinct (by simp [documentMembers]) covers_readSchema _
  have dataModel : CoversMembers documentMembers
      (withDefault (.plain "datamodel") readDataModel []) :=
    .withDefault distinct (by simp [documentMembers]) covers_readDataModel _
  exact ((schema.map _).seq dataModel).object _

end Shape

/-! ## Any number of edits -/

/-- The values differ in edits of one or the other, of which there may be any number. -/
abbrev SameDocument : Json.Value → Json.Value → Prop := Relation.EqvGen Shape.document.Edits

theorem readDocument_eq {left right : Json.Value} (same : SameDocument left right) :
    readDocument left = readDocument right := by
  induction same with
  | rel left right edit => exact Shape.covers_readDocument edit
  | refl value => rfl
  | symm left right _ ih => exact ih.symm
  | trans left middle right _ _ ih ihOther => exact ih.trans ihOther

/-- Two documents that mean the same load alike: both give the same metadata, or both fail with the
same issues. -/
theorem loadValue_of_sameDocument {left right : Json.Value} (same : SameDocument left right) :
    loadValue left = loadValue right := by
  rw [loadValue, loadValue, readDocument_eq same]

def listing (schemaName : Text) (inputType : Json.Value) : Json.Value :=
  .object [(schemaName, .object [("inputObjectTypes", .object [("prisma", .array [inputType])])])]

theorem edits_listing {left right : Json.Value}
    (edit : (Shape.object Shape.inputTypeMembers).Edits left right) :
    Shape.document.Edits (listing "schema" left) (listing "schema" right) := by
  have inGroup : (Shape.object (Shape.groupMembers (.object Shape.inputTypeMembers))).Edits
      (.object [("prisma", .array [left])]) (.object [("prisma", .array [right])]) :=
    @Shape.Edits.inMember _ (.plain "prisma") _ _ [] [] _ _ List.mem_cons_self List.mem_cons_self
      (@Shape.Edits.inItem _ [] [] _ _ edit)
  have inSchema : (Shape.object Shape.schemaMembers).Edits
      (.object [("inputObjectTypes", .object [("prisma", .array [left])])])
      (.object [("inputObjectTypes", .object [("prisma", .array [right])])]) :=
    @Shape.Edits.inMember _ ⟨"inputObjectTypes", "input_object_types"⟩ _ _ [] [] _ _
      (by simp [Shape.schemaMembers]) List.mem_cons_self inGroup
  exact @Shape.Edits.inMember _ ⟨"schema", "schema_"⟩ _ _ [] [] _ _ List.mem_cons_self
    List.mem_cons_self inSchema

def postInput (candidatesName : Text) (notes : List (Text × Json.Value)) : Json.Value :=
  let candidate : Json.Value := .object [("type", .text "String"), ("isList", .boolean true)]
  let field : Json.Value := .object [("name", .text "tags"), (candidatesName, .array [candidate])]
  .object (("name", .text "PostInput") :: ("fields", .array [field]) :: notes)

/-- Two members are respelled, one of them inside a list inside the other, and one is added. -/
theorem loadValue_postInput :
    SameDocument (listing "schema" (postInput "inputTypes" []))
      (listing "schema_" (postInput "input_types" [("meta", .null)])) ∧
    loadValue (listing "schema" (postInput "inputTypes" [])) =
      loadValue (listing "schema_" (postInput "input_types" [("meta", .null)])) := by
  have inField (candidates : Json.Value) : (Shape.object Shape.fieldMembers).Edits
      (.object [("name", .text "tags"), ("inputTypes", candidates)])
      (.object [("name", .text "tags"), ("input_types", candidates)]) :=
    @Shape.Edits.respelled _ ⟨"inputTypes", "input_types"⟩
      (.list (.object Shape.candidateMembers)) [_] [] _
      (by simp [Shape.fieldMembers]) (by decide +kernel)
  have respelled : (Shape.object Shape.inputTypeMembers).Edits
      (postInput "inputTypes" []) (postInput "input_types" []) :=
    @Shape.Edits.inMember _ (.plain "fields") _ _ [_] [] _ _ (by simp [Shape.inputTypeMembers])
      List.mem_cons_self (@Shape.Edits.inItem _ [] [] _ _ (inField _))
  have added : (Shape.object Shape.inputTypeMembers).Edits
      (postInput "input_types" []) (postInput "input_types" [("meta", .null)]) :=
    @Shape.Edits.added _ [_, _] [] _ _ (by decide +kernel)
  have schema (inputType : Json.Value) :
      Shape.document.Edits (listing "schema" inputType) (listing "schema_" inputType) :=
    @Shape.Edits.respelled _ ⟨"schema", "schema_"⟩ _ [] [] _ List.mem_cons_self (by simp)
  have same : SameDocument (listing "schema" (postInput "inputTypes" []))
      (listing "schema_" (postInput "input_types" [("meta", .null)])) :=
    .trans _ _ _ (.rel _ _ (edits_listing respelled))
      (.trans _ _ _ (.rel _ _ (edits_listing added)) (.rel _ _ (schema _)))
  exact ⟨same, loadValue_of_sameDocument same⟩

end ZodValidators.Snapshot
