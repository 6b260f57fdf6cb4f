import Mathlib.Data.List.Induction
import ZodValidators.Sdl.Files

/-!
# What documents define

The metadata of documents is described by the list of all their definitions, without adding them one
after the other: which names are enums and input types, which fields an input type keeps, and which
operations there are. How definitions are spread over documents does not show.
-/

set_option autoImplicit false

namespace ZodValidators

namespace Sdl

/-! ## Reading a list of definitions -/

def Definition.enumName? : Definition → Option String
  | .enumeration name _ _ => some name
  | _ => none

def Definition.inputName? : Definition → Option String
  | .input name _ _ => some name
  | _ => none

def enumNames (definitions : List Definition) : List String :=
  (definitions.filterMap Definition.enumName?).eraseDups

/-- The names of the input types in the order of their first definitions or extensions. -/
def inputNames (definitions : List Definition) : List String :=
  (definitions.filterMap Definition.inputName?).eraseDups

def Definition.enumType? (name : String) : Definition → Option EnumType
  | .enumeration defined values description =>
    if defined = name then some {
      name
      values := values.map Text.ofString
      description := description.map Text.ofString }
    else none
  | _ => none

theorem Definition.name_of_enumType? {name : String} {definition : Definition}
    {enumType : EnumType} (given : definition.enumType? name = some enumType) :
    enumType.name = name := by
  cases definition with
  | enumeration defined values description =>
      simp only [enumType?] at given
      split at given
      · cases given; rfl
      · cases given
  | scalar | object | input | other => cases given

def Definition.inputPart? (name : String) : Definition → Option (List InputValue × Option String)
  | .input defined fields description => if defined = name then some (fields, description) else none
  | _ => none

/-- What the definitions and extensions of an input type give, one after the other. -/
def inputParts (name : String) (definitions : List Definition) :
    List (List InputValue × Option String) :=
  definitions.filterMap (Definition.inputPart? name)

/-- The fields that are kept of several lists: those whose names stand neither in `seen` nor in an
earlier list. A name may be repeated within one list. -/
def keptFields (seen : List String) : List (List InputValue) → List InputValue
  | [] => []
  | fields :: rest =>
    fields.filter (fun field => field.name ∉ seen) ++
      keptFields (seen ++ fields.map InputValue.name) rest

def inputFields (name : String) (definitions : List Definition) : List InputValue :=
  keptFields [] ((inputParts name definitions).map Prod.fst)

def rootTypeName : RootKind → String
  | .query => "Query"
  | .mutation => "Mutation"

def Definition.rootFields (kind : RootKind) : Definition → List ObjectField
  | .object defined fields => if defined = rootTypeName kind then fields else []
  | _ => []

def rootFields (kind : RootKind) (definitions : List Definition) : List ObjectField :=
  definitions.flatMap (Definition.rootFields kind)

/-! ## The rule of merging -/

theorem keptFields_append (seen : List String) (lists others : List (List InputValue)) :
    keptFields seen (lists ++ others) =
      keptFields seen lists ++ keptFields (seen ++ lists.flatten.map InputValue.name) others := by
  induction lists generalizing seen with
  | nil => simp [keptFields]
  | cons fields rest ih => simp [keptFields, ih, List.append_assoc]

theorem mem_names_keptFields (seen : List String) (lists : List (List InputValue))
    (name : String) :
    name ∈ seen ++ (keptFields seen lists).map InputValue.name ↔
      name ∈ seen ++ lists.flatten.map InputValue.name := by
  induction lists generalizing seen with
  | nil => simp [keptFields]
  | cons fields rest ih =>
      have following := ih (seen ++ fields.map InputValue.name)
      simp only [keptFields, List.flatten_cons, List.map_append, List.mem_append,
        List.mem_map, List.mem_filter, decide_eq_true_eq] at following ⊢
      grind

theorem keptFields_singleton (fields : List InputValue) : keptFields [] [fields] = fields := by
  rw [keptFields, keptFields, List.append_nil]
  exact List.filter_eq_self.mpr (by simp)

/-- It is enough to compare a further list with the kept fields of the others. -/
theorem keptFields_concat (lists : List (List InputValue)) (fields : List InputValue) :
    keptFields [] (lists ++ [fields]) =
      keptFields [] lists ++ fields.filter fun field =>
        field.name ∉ (keptFields [] lists).map InputValue.name := by
  rw [keptFields_append, keptFields, keptFields, List.append_nil, List.nil_append]
  congr 1
  apply List.filter_congr
  intro field _
  have names := mem_names_keptFields [] lists field.name
  exact decide_eq_decide.mpr (not_congr names.symm)

end Sdl

/-! ## Adding definitions -/

namespace Schema

/-! ### One definition -/

private theorem foldl_addOperation (schema : Schema) (kind : RootKind)
    (fields : List Sdl.ObjectField) :
    fields.foldl (fun schema field => schema.addOperation (field.operation kind)) schema =
      match kind with
      | .query => { schema with queries := schema.queries ++ fields.map (·.operation .query) }
      | .mutation =>
        { schema with mutations := schema.mutations ++ fields.map (·.operation .mutation) } := by
  have added := schema.foldl_addOperation_eq (fields.map (·.operation kind))
  rw [List.foldl_map] at added
  have kinds (other : RootKind) :
      (fields.map (·.operation kind)).filter (fun operation => operation.kind = other) =
        if kind = other then fields.map (·.operation kind) else [] := by
    split
    · next same => exact List.filter_eq_self.mpr (by simp [Sdl.ObjectField.operation, same])
    · next different =>
        exact List.filter_eq_nil_iff.mpr (by simp [Sdl.ObjectField.operation, different])
  rw [added, kinds, kinds]
  cases kind <;> simp

theorem addDefinition_object (schema : Schema) (name : String) (fields : List Sdl.ObjectField) :
    schema.addDefinition (.object name fields) = { schema with
      queries := schema.queries ++
        (Sdl.Definition.rootFields .query (.object name fields)).map (·.operation .query)
      mutations := schema.mutations ++
        (Sdl.Definition.rootFields .mutation (.object name fields)).map
          (·.operation .mutation) } := by
  by_cases query : name = "Query"
  · simp [addDefinition, Sdl.rootKind?, Sdl.Definition.rootFields, Sdl.rootTypeName,
      foldl_addOperation, query]
  · by_cases mutation : name = "Mutation" <;>
      simp [addDefinition, Sdl.rootKind?, Sdl.Definition.rootFields, Sdl.rootTypeName,
        foldl_addOperation, query, mutation]

theorem addDefinition_scalar (schema : Schema) (name : String) :
    schema.addDefinition (.scalar name) = { schema with
      scalars := if (name : Text) ∈ schema.scalars then schema.scalars
        else schema.scalars ++ [(name : Text)] } := by
  simp only [addDefinition, declareScalar]
  split <;> rfl

theorem addDefinition_input (schema : Schema) (name : String) (fields : List Sdl.InputValue)
    (description : Option String) :
    schema.addDefinition (.input name fields description) = { schema with
      inputs := schema.inputs.insert name (
        match schema.inputs.find? name with
        | some existing => existing.merge (fields.map Sdl.InputValue.field)
        | none => {
          name
          fields := fields.map Sdl.InputValue.field
          description := description.map Text.ofString }) } := by
  simp only [addDefinition, addInput, putInput]
  split <;> simp [*]

def operationsOf (kind : RootKind) (schema : Schema) : List Operation :=
  match kind with
  | .query => schema.queries
  | .mutation => schema.mutations

theorem operationsOf_addDefinition (kind : RootKind) (schema : Schema)
    (definition : Sdl.Definition) :
    (schema.addDefinition definition).operationsOf kind =
      schema.operationsOf kind ++ (definition.rootFields kind).map (·.operation kind) := by
  cases definition with
  | object => rw [addDefinition_object]; cases kind <;> rfl
  | scalar => rw [addDefinition_scalar]; cases kind <;> simp [operationsOf, Sdl.Definition.rootFields]
  | enumeration => cases kind <;> simp [addDefinition, putEnum, operationsOf, Sdl.Definition.rootFields]
  | input => rw [addDefinition_input]; cases kind <;> simp [operationsOf, Sdl.Definition.rootFields]
  | other => simp [addDefinition, Sdl.Definition.rootFields]

theorem enums_addDefinition (schema : Schema) (definition : Sdl.Definition) :
    (schema.addDefinition definition).enums =
      match definition with
      | .enumeration name values description =>
        schema.enums.insert name {
          name
          values := values.map Text.ofString
          description := description.map Text.ofString }
      | _ => schema.enums := by
  cases definition with
  | object => rw [addDefinition_object]
  | scalar => rw [addDefinition_scalar]
  | enumeration => rfl
  | input => rw [addDefinition_input]
  | other => rfl

theorem inputs_addDefinition (schema : Schema) (definition : Sdl.Definition) :
    (schema.addDefinition definition).inputs =
      match definition with
      | .input name fields description =>
        schema.inputs.insert name (
          match schema.inputs.find? name with
          | some existing => existing.merge (fields.map Sdl.InputValue.field)
          | none => {
            name
            fields := fields.map Sdl.InputValue.field
            description := description.map Text.ofString })
      | _ => schema.inputs := by
  cases definition with
  | object => rw [addDefinition_object]
  | scalar => rw [addDefinition_scalar]
  | enumeration => rfl
  | input => rw [addDefinition_input]
  | other => rfl

/-! ### All definitions -/

/-- What definitions build from nothing, without the places of types. -/
def collect (definitions : List Sdl.Definition) : Schema := ({} : Schema).addDocument definitions

theorem collect_concat (definitions : List Sdl.Definition) (definition : Sdl.Definition) :
    collect (definitions ++ [definition]) = (collect definitions).addDefinition definition := by
  simp [collect, addDocument]

theorem operationsOf_collect (kind : RootKind) (definitions : List Sdl.Definition) :
    (collect definitions).operationsOf kind =
      (Sdl.rootFields kind definitions).map (·.operation kind) := by
  induction definitions using List.reverseRecOn with
  | nil => cases kind <;> rfl
  | append_singleton definitions definition ih =>
      rw [collect_concat, operationsOf_addDefinition, ih, Sdl.rootFields, Sdl.rootFields,
        List.flatMap_append, List.map_append, List.flatMap_singleton]

private theorem keys_insert_names {α : Type} {table : Table α} {names : List String}
    (keys : table.keys = names.eraseDups.map Text.ofString) (name : String) (value : α) :
    (table.insert name value).keys = (names ++ [name]).eraseDups.map Text.ofString := by
  have member : (name : Text) ∈ table.keys ↔ name ∈ names := by
    rw [keys, Text.mem_map_ofString, List.mem_eraseDups]
  rw [Table.keys_insert, Table.eraseDups_concat]
  by_cases present : name ∈ names
  · rw [if_pos (member.mpr present), if_pos present, keys]
  · rw [if_neg fun found => present (member.mp found), if_neg present, keys, List.map_append]
    rfl

theorem keys_enums_collect (definitions : List Sdl.Definition) :
    (collect definitions).enums.keys = (Sdl.enumNames definitions).map Text.ofString := by
  induction definitions using List.reverseRecOn with
  | nil => rfl
  | append_singleton definitions definition ih =>
      rw [collect_concat, enums_addDefinition, Sdl.enumNames, List.filterMap_append]
      cases definition with
      | enumeration name values description => exact keys_insert_names ih name _
      | scalar | object | input | other =>
          rw [List.filterMap_cons_none rfl, List.filterMap_nil, List.append_nil]
          exact ih

theorem keys_inputs_collect (definitions : List Sdl.Definition) :
    (collect definitions).inputs.keys = (Sdl.inputNames definitions).map Text.ofString := by
  induction definitions using List.reverseRecOn with
  | nil => rfl
  | append_singleton definitions definition ih =>
      rw [collect_concat, inputs_addDefinition, Sdl.inputNames, List.filterMap_append]
      cases definition with
      | input name fields description => exact keys_insert_names ih name _
      | scalar | object | enumeration | other =>
          rw [List.filterMap_cons_none rfl, List.filterMap_nil, List.append_nil]
          exact ih

/-- The last definition of an enum counts. -/
theorem find?_enums_collect (definitions : List Sdl.Definition) (name : String) :
    (collect definitions).enums.find? name =
      (definitions.filterMap (Sdl.Definition.enumType? name)).getLast? := by
  induction definitions using List.reverseRecOn with
  | nil => rfl
  | append_singleton definitions definition ih =>
      rw [collect_concat, enums_addDefinition, List.filterMap_append, List.getLast?_append]
      cases definition with
      | enumeration other values description =>
          rw [Table.find?_insert]
          by_cases same : other = name
          · subst other
            simp [Sdl.Definition.enumType?]
          · have different : (name : Text) ≠ other :=
              fun equal => same (Text.ofString_injective equal).symm
            simp [Sdl.Definition.enumType?, same, different, ih]
      | scalar | object | input | other => simpa [Sdl.Definition.enumType?] using ih

/-- The input type that parts build in their order: the first one gives the description. -/
def mergedInput (name : String) (parts : List (List Sdl.InputValue × Option String)) :
    Option InputType :=
  parts.head?.map fun first => {
    name
    fields := (Sdl.keptFields [] (parts.map Prod.fst)).map Sdl.InputValue.field
    description := first.2.map Text.ofString }

private theorem filter_fields (kept fields : List Sdl.InputValue) :
    (fields.map Sdl.InputValue.field).filter (fun field =>
        !((kept.map Sdl.InputValue.field).map Field.name).contains field.name) =
      (fields.filter fun field => field.name ∉ kept.map Sdl.InputValue.name).map
        Sdl.InputValue.field := by
  have present (field : Sdl.InputValue) :
      Text.ofString field.name ∈ (kept.map Sdl.InputValue.field).map Field.name ↔
        field.name ∈ kept.map Sdl.InputValue.name := by
    have names : (kept.map Sdl.InputValue.field).map Field.name =
        (kept.map Sdl.InputValue.name).map Text.ofString := by
      rw [List.map_map, List.map_map]
      rfl
    rw [names, Text.mem_map_ofString]
  rw [List.filter_map]
  congr 1
  apply List.filter_congr
  intro field _
  rw [Function.comp_apply, List.contains_eq_mem, ← decide_not]
  exact decide_eq_decide.mpr (not_congr (present field))

theorem mergedInput_concat (name : String) (parts : List (List Sdl.InputValue × Option String))
    (fields : List Sdl.InputValue) (description : Option String) :
    mergedInput name (parts ++ [(fields, description)]) =
      some (match mergedInput name parts with
        | some existing => existing.merge (fields.map Sdl.InputValue.field)
        | none => {
          name
          fields := fields.map Sdl.InputValue.field
          description := description.map Text.ofString }) := by
  cases parts with
  | nil => simp [mergedInput, Sdl.keptFields_singleton]
  | cons first rest =>
      have merged : Sdl.keptFields [] ((first :: rest ++ [(fields, description)]).map Prod.fst) =
          Sdl.keptFields [] ((first :: rest).map Prod.fst) ++ fields.filter fun field =>
            field.name ∉ (Sdl.keptFields [] ((first :: rest).map Prod.fst)).map
              Sdl.InputValue.name := by
        rw [List.map_append]
        exact Sdl.keptFields_concat _ _
      rw [mergedInput, merged]
      simp only [mergedInput, List.cons_append, List.head?_cons, Option.map_some,
        InputType.merge, filter_fields, List.map_append]

theorem find?_inputs_collect (definitions : List Sdl.Definition) (name : String) :
    (collect definitions).inputs.find? name =
      mergedInput name (Sdl.inputParts name definitions) := by
  -- A definition finds what all definitions before it have built, so the last one is split off.
  induction definitions using List.reverseRecOn with
  | nil => rfl
  | append_singleton definitions definition ih =>
      rw [collect_concat, inputs_addDefinition, Sdl.inputParts, List.filterMap_append]
      cases definition with
      | input other fields description =>
          rw [Table.find?_insert]
          by_cases same : other = name
          · subst other
            simp [Sdl.Definition.inputPart?, mergedInput_concat, ih, Sdl.inputParts]
          · have different : (name : Text) ≠ other :=
              fun equal => same (Text.ofString_injective equal).symm
            simp [Sdl.Definition.inputPart?, same, different, ih, Sdl.inputParts]
      | scalar | object | enumeration | other =>
          rw [List.filterMap_cons_none rfl, List.filterMap_nil, List.append_nil]
          exact ih

end Schema

end ZodValidators
