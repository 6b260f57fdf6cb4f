import ZodValidators.Table

/-!
# Scalar registries

A registry says with which zod constructor a scalar is validated. It starts with the built-in
scalars; a later registration of a name replaces an earlier one.
-/

set_option autoImplicit false

namespace ZodValidators

/-- How a scalar is validated: the zod constructor, and whether it came with the registry. -/
structure ScalarHandler where
  zodType : Text
  builtIn : Bool := false
deriving DecidableEq, Repr

abbrev Registry := Table ScalarHandler

namespace Registry

def builtIns : List (String × String) :=
  [("String", "string"), ("ID", "string"), ("UUID", "string"),
   ("Int", "number"), ("Float", "number"), ("Decimal", "number"),
   ("BigInt", "bigint"), ("Boolean", "boolean"), ("DateTime", "date"), ("Date", "date"),
   ("Json", "any"), ("JSON", "any"), ("JSONObject", "any"), ("Bytes", "any")]

def default : Registry :=
  Table.ofList (builtIns.map fun (name, zodType) =>
    (Text.ofString name, { zodType, builtIn := true }))

def register (registry : Registry) (name zodType : Text) : Registry :=
  registry.insert name { zodType }

def registerAll (registry : Registry) (mapping : List (Text × Text)) : Registry :=
  mapping.foldl (fun registry entry => registry.register entry.1 entry.2) registry

def zodType? (registry : Registry) (name : Text) : Option Text :=
  (registry.find? name).map ScalarHandler.zodType

@[simp] theorem zodType?_register (registry : Registry) (name zodType other : Text) :
    (registry.register name zodType).zodType? other =
      if other = name then some zodType else registry.zodType? other := by
  rw [zodType?, register, Table.find?_insert]
  split <;> rfl

/-- The mapping goes before what was registered already, and later entries before earlier ones. -/
theorem zodType?_registerAll_ofList (registry : Registry) (mapping : List (Text × Text))
    (name : Text) :
    (registry.registerAll mapping).zodType? name =
      ((Table.ofList mapping).find? name).or (registry.zodType? name) := by
  -- The induction is for a registry on which a table was registered before.
  suffices general : ∀ (known : Registry) (table : Table Text),
      known.zodType? name = (table.find? name).or (registry.zodType? name) →
      (known.registerAll mapping).zodType? name =
        ((table.insertAll mapping).find? name).or (registry.zodType? name) from
    general registry Table.empty rfl
  induction mapping with
  | nil => exact fun _ _ known => known
  | cons entry rest ih =>
      intro known table agrees
      apply ih (known.register entry.1 entry.2) (table.insert entry.1 entry.2)
      rw [zodType?_register, Table.find?_insert, agrees]
      split <;> rfl

theorem zodType?_registerAll (registry : Registry) (mapping : Table Text) (name : Text) :
    (registry.registerAll mapping.entries).zodType? name =
      (mapping.find? name).or (registry.zodType? name) := by
  rw [zodType?_registerAll_ofList, Table.ofList_entries]

end Registry

end ZodValidators
