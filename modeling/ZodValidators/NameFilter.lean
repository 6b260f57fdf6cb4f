import ZodValidators.Metadata

/-!
# Filters on names

A filter keeps only what passes all of its rules: enums and input types by their name, operations
by the name of their arguments.
-/

set_option autoImplicit false

namespace ZodValidators

/-- Rules on the two ends of a name. An empty rule is not applied. -/
structure NameFilter where
  excludePrefix : Text := []
  excludeSuffix : Text := []
  includePrefix : Text := []
  includeSuffix : Text := []
deriving DecidableEq, Repr

namespace NameFilter

def keeps (filter : NameFilter) (name : Text) : Bool :=
  (filter.excludePrefix.isEmpty || !filter.excludePrefix.isPrefixOf name) &&
  (filter.excludeSuffix.isEmpty || !filter.excludeSuffix.isSuffixOf name) &&
  (filter.includePrefix.isEmpty || filter.includePrefix.isPrefixOf name) &&
  (filter.includeSuffix.isEmpty || filter.includeSuffix.isSuffixOf name)

/-- The schema with only those enums, input types and operations whose names the filter keeps. -/
def apply (filter : NameFilter) (schema : Schema) : Schema :=
  { schema with
    enums := schema.enums.filter fun enumType => filter.keeps enumType.name
    inputs := schema.inputs.filter fun inputType => filter.keeps inputType.name
    queries := schema.queries.filter fun operation => filter.keeps operation.argumentsName
    mutations := schema.mutations.filter fun operation => filter.keeps operation.argumentsName }

def applyAll (filters : List NameFilter) (schema : Schema) : Schema :=
  filters.foldl (fun schema filter => filter.apply schema) schema

end NameFilter

end ZodValidators
