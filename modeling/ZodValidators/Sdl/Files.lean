import ZodValidators.FileTree
import ZodValidators.Sdl.Loading
import ZodValidators.Sdl.Parser
import ZodValidators.Text.Utf8

/-!
# Schema files

A schema is read from one file or from all schema files below a directory, in the order of their
paths.
-/

set_option autoImplicit false

namespace ZodValidators.Sdl

inductive LoadFailure where
  | syntaxFault (file : String) (fault : Fault)
  | encoding (fault : Text.Utf8.Fault)
  | file (fault : FileFault)
deriving DecidableEq, Repr

def syntaxMessage (file text : String) : String := "Error parsing " ++ file ++ ": " ++ text

def isSchemaFile (path : String) : Bool :=
  FilePath.endsWith path ".graphqls" || FilePath.endsWith path ".graphql"

def schemaFiles (tree : FileTree) (path : String) : List (String × List UInt8) :=
  match tree.find? path with
  | none => []
  | some place =>
    match tree.fileAt? place with
    | some bytes => if isSchemaFile path then [((FilePath.ofText path).name, bytes)] else []
    | none =>
      ((tree.filesBelow place).filter fun file => isSchemaFile file.1).map fun (path, bytes) =>
        ((FilePath.ofText path).name, bytes)

/-- The schema with the definitions of a text added; a text with a fault adds none of them. -/
def addText (schema : Schema) (text : List Char) : Except Fault Schema :=
  (parse text).map schema.addDocument

def addFiles (schema : Schema) : List (String × List UInt8) → Except LoadFailure Schema
  | [] => .ok schema
  | (file, bytes) :: rest =>
    match Text.Utf8.decode bytes with
    | .error fault => .error (.encoding fault)
    | .ok characters =>
      match addText schema (Text.unifyLineEnds characters) with
      | .error fault => .error (.syntaxFault file fault)
      | .ok schema => addFiles schema rest

/-- The schema in the files that a path means. A path that leads nowhere means no files, unless the
null character stands in it. -/
def load (tree : FileTree) (path : String) : Except LoadFailure Schema :=
  match tree.placeOf path with
  | .error .nullCharacter => .error (.file .nullCharacter)
  | _ => (addFiles {} (schemaFiles tree path)).map Schema.locateAll

end ZodValidators.Sdl
