import ZodValidators.Gather
import ZodValidators.TypeKind

/-!
# Validator expressions

`Field.compile` gives the zod expression of a field or an argument, followed by a comma. A field
with one candidate other than null is written directly with its modifiers behind it. A field with
several is a union; its branches have no modifiers and the union has them once.
-/

set_option autoImplicit false

namespace ZodValidators

namespace Expression

/-- The modifiers in their fixed order. -/
def modifiers (isList isOptional isNullable : Bool) : String :=
  (if isList then ".array()" else "") ++ (if isOptional then ".optional()" else "") ++
    (if isNullable then ".nullable()" else "")

/-- A scalar with its custom errors as the argument of the constructor and the validator right
behind it. -/
def scalar (zodType : Text) (validator customErrors : Constant)
    (isList isOptional isNullable : Bool) : Text :=
  "z." ++ zodType ++ "(" ++ customErrors.inserted ++ ")" ++ validator.inserted ++
    modifiers isList isOptional isNullable ++ ","

/-- A reference to another declaration. A deferred one is looked up only when it is used. -/
def reference (name : Text) (deferred isList isOptional isNullable : Bool) : Text :=
  (if deferred then "z.lazy(() => " ++ name ++ ")" else name) ++
    modifiers isList isOptional isNullable ++ ","

def null (zodType : Text) (isOptional isNullable : Bool) : Text :=
  "z." ++ zodType ++ "()" ++ modifiers false isOptional isNullable ++ ","

/-- A union of branches, each of which ends in a comma. -/
def union (branches : List Text) (isOptional isNullable : Bool) : Text :=
  "z.union([ " ++ branches.flatten ++ " ])" ++ modifiers false isOptional isNullable ++ ","

def candidate (kind : TypeKind) (isList : Bool) (field : Field)
    (deferred isOptional isNullable : Bool) : Text :=
  match kind with
  | .scalar zodType =>
    scalar zodType field.validator field.customErrors isList isOptional isNullable
  | .reference name => reference name deferred isList isOptional isNullable
  | .null zodType => null zodType isOptional isNullable

end Expression

def withKind (registry : Registry) (candidate : TypeRef) :
    Except UnrecognizedType (TypeKind × TypeRef) :=
  (TypeKind.classify registry candidate).map fun kind => (kind, candidate)

def Field.compile (registry : Registry) (deferred : Bool) (owner : Option Text) (field : Field) :
    Except FieldFailure Text :=
  if field.nonNullCandidates = [] then .error (.missingCandidates owner field.name)
  else
    match gather (withKind registry) field.nonNullCandidates with
    | .error unrecognized =>
      .error (.unrecognized (unrecognized.withContext owner (some field.name)))
    | .ok [(kind, candidate)] =>
      .ok (Expression.candidate kind candidate.isList field deferred field.optional field.nullable)
    | .ok branches =>
      let texts := branches.map fun (kind, candidate) =>
        Expression.candidate kind candidate.isList field deferred false false
      .ok (Expression.union texts (!field.required) field.nullable)

end ZodValidators
