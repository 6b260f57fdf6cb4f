import ZodValidators.FileTree
import ZodValidators.ModuleText

/-!
# Rendering into files

The template is taken from the template directory, if that holds one, and the rendered module is
written into a file.
-/

set_option autoImplicit false

namespace ZodValidators

inductive RenderFailure where
  | directory (fault : FileFault)
  | template (fault : Template.Fault)
  | encoding (fault : Text.Utf8.Fault)
deriving DecidableEq, Repr

namespace ModuleFile

def templateName : String := "validators.ts.j2"

def customTemplate? (tree : FileTree) (options : Options) :
    Except FileFault (Option (List UInt8)) :=
  match options.templateDirectory with
  | none => .ok none
  | some directory =>
    match tree.placeOf directory with
    | .ok place => .ok (tree.fileAt? (place ++ [templateName]))
    | .error .nameTooLong => .error .nameTooLong
    | .error _ => .ok none

def template (tree : FileTree) (options : Options) : Except RenderFailure (List Char) :=
  match customTemplate? tree options with
  | .error fault => .error (.directory fault)
  | .ok none => .ok ModuleText.standardTemplate
  | .ok (some bytes) => (Text.Utf8.decode bytes).mapError .encoding

def render (tree : FileTree) (options : Options) (headers : List Text) (sections : List Section) :
    Except RenderFailure Text := do
  let template ← template tree options
  (ModuleText.render options headers template sections).mapError .template

inductive WriteFailure where
  | render (failure : RenderFailure)
  | file (refusal : FileTree.Refusal)
  /-- Half of a surrogate pair stands in the text. The file is left empty in the given tree. -/
  | surrogate (left : FileTree)
deriving DecidableEq, Repr

/-- The tree after a text was written to a path. The file is opened before the text is encoded. -/
def writeText (tree : FileTree) (path : FilePath) (text : Text) : Except WriteFailure FileTree :=
  match Text.Utf8.encode? text with
  | some bytes => (tree.writeWithDirectories path bytes).mapError .file
  | none =>
    match tree.writeWithDirectories path [] with
    | .ok left => .error (.surrogate left)
    | .error refusal => .error (.file refusal)

/-- The tree after a module was rendered and written to a path. Nothing is touched before the text
is complete. -/
def write (tree : FileTree) (options : Options) (headers : List Text) (sections : List Section)
    (path : FilePath) : Except WriteFailure FileTree := do
  let text ← (render tree options headers sections).mapError .render
  writeText tree path text

end ModuleFile

end ZodValidators
