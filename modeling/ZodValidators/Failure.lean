import ZodValidators.Text.Quoted

/-!
# What makes a field unusable

A field cannot be compiled when it has no candidate type other than null, or when one of them is
neither a known scalar nor defined at a known place.
-/

set_option autoImplicit false

namespace ZodValidators

open ZodValidators.Text

/-- A candidate type that fits no category: its name, where it claims to be defined, and, once they
are known, the declaration and the field it stands in. `declared` marks a scalar that the schema
declares without a mapping. -/
structure UnrecognizedType where
  typeName : Text
  location : Text
  owner : Option Text := none
  field : Option Text := none
  declared : Bool := false
deriving DecidableEq, Repr

namespace UnrecognizedType

def withContext (unrecognized : UnrecognizedType) (owner : Option Text) (field : Option Text) :
    UnrecognizedType :=
  { unrecognized with owner, field }

def asDeclared (unrecognized : UnrecognizedType) : UnrecognizedType :=
  { unrecognized with declared := true }

/-- Where the type stands. An empty name counts as unknown. -/
def place (unrecognized : UnrecognizedType) : Text :=
  match unrecognized.owner.getD [], unrecognized.field.getD [] with
  | _, [] => []
  | [], field => " in field " ++ field
  | owner, field => " in " ++ owner ++ "." ++ field

def message (unrecognized : UnrecognizedType) : Text :=
  if unrecognized.declared then
    "Declared scalar " ++ quoted unrecognized.typeName ++ unrecognized.place ++
      " has no zod mapping; register one with --scalar " ++ unrecognized.typeName ++ "=<zodType>"
  else
    "Cannot classify type " ++ quoted unrecognized.typeName ++ " (location " ++
      quoted unrecognized.location ++ ")" ++ unrecognized.place

end UnrecognizedType

inductive FieldFailure where
  /-- Null is the only candidate, or there is none. -/
  | missingCandidates (owner : Option Text) (field : Text)
  | unrecognized (candidate : UnrecognizedType)
deriving DecidableEq, Repr

def FieldFailure.message : FieldFailure → Text
  | .missingCandidates owner field =>
    let name := match owner.getD [] with
      | [] => field
      | owner => owner ++ "." ++ field
    "Field " ++ name ++ " has no non-null candidate types"
  | .unrecognized candidate => candidate.message

end ZodValidators
