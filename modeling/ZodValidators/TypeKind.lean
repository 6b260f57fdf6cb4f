import ZodValidators.Failure
import ZodValidators.Metadata
import ZodValidators.Scalars

/-!
# Categories of candidate types

Every usable candidate type is a scalar with a zod constructor, a reference to an enum or an input
object type, or null.
-/

set_option autoImplicit false

namespace ZodValidators

inductive TypeKind where
  /-- A primitive with its zod constructor. -/
  | scalar (zodType : Text)
  | reference (name : Text)
  | null (zodType : Text := "null")
deriving DecidableEq, Repr

namespace TypeKind

def isReferencePlace (location : Location) : Bool :=
  location = Location.inputObject || location = Location.enumeration

/-- The category of a candidate type. A scalar needs a zod constructor that is not empty. -/
def classify (registry : Registry) (candidate : TypeRef) : Except UnrecognizedType TypeKind :=
  if candidate.isNull then .ok .null
  else if isReferencePlace candidate.location then .ok (.reference candidate.name)
  else
    let unrecognized := { typeName := candidate.name, location := candidate.location }
    if candidate.location = Location.scalar then
      match registry.zodType? candidate.name with
      | some zodType => if zodType = [] then .error unrecognized else .ok (.scalar zodType)
      | none => .error unrecognized
    else .error unrecognized

end TypeKind

end ZodValidators
