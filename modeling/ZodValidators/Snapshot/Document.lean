import ZodValidators.Text.Basic

/-!
# Snapshot documents

The parts of a metadata snapshot that validators are made from. A document lists the schema's own
enums, the input object types, the output object types, of which two hold the root operations, and
the enums of the data model.
-/

set_option autoImplicit false

namespace ZodValidators.Snapshot

structure CandidateEntry where
  type : Text
  location : Text
  isList : Bool
deriving DecidableEq, Repr

structure FieldEntry where
  name : Text
  inputTypes : List CandidateEntry
  isRequired : Bool
  isNullable : Bool
  isOptional : Option Bool
  zodValidatorString : Option Text
  zodCustomErrors : Option Text
deriving DecidableEq, Repr

structure InputTypeEntry where
  name : Text
  fields : List FieldEntry
deriving DecidableEq, Repr

structure OperationEntry where
  name : Text
  argName : Option Text
  args : List FieldEntry
deriving DecidableEq, Repr

structure OutputTypeEntry where
  name : Text
  fields : List OperationEntry
deriving DecidableEq, Repr

structure EnumEntry where
  name : Text
  values : List Text
deriving DecidableEq, Repr

structure Document where
  enumTypes : List EnumEntry
  inputTypes : List InputTypeEntry
  outputTypes : List OutputTypeEntry
  modelEnums : List EnumEntry
deriving DecidableEq, Repr

end ZodValidators.Snapshot
