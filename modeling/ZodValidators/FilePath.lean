/-!
# File paths

A path is a sequence of names, from the root or from the working directory. Empty names and single
dots in its text say nothing; a double dot is kept, because it means the directory above whatever
the names before it lead to.
-/

set_option autoImplicit false

namespace ZodValidators

structure FilePath where
  absolute : Bool
  names : List String
deriving DecidableEq, Repr

namespace FilePath

def parts : List Char → List (List Char)
  | [] => [[]]
  | character :: rest =>
    if character = '/' then [] :: parts rest
    else match parts rest with
      | [] => [[character]]
      | part :: others => (character :: part) :: others

def endsWith (text ending : String) : Bool := ending.toList.isSuffixOf text.toList

/-- The parts of a path's text, with the empty ones and the dots. -/
def rawNames (text : String) : List String := (parts text.toList).map String.ofList

def ofText (text : String) : FilePath where
  absolute := text.toList.head? = some '/'
  names := (rawNames text).filter fun name => name != "" && name != "."

/-- The text of a path. The empty relative path is a dot. -/
def text (path : FilePath) : String :=
  if path.absolute then "/" ++ "/".intercalate path.names
  else if path.names = [] then "." else "/".intercalate path.names

def name (path : FilePath) : String := path.names.getLast?.getD ""

def parent (path : FilePath) : FilePath := { path with names := path.names.dropLast }

/-- The names with every double dot applied to the name before it. -/
def collapse (names : List String) : List String :=
  names.foldl (fun before name => if name = ".." then before.dropLast else before ++ [name]) []

def resolve (working : List String) (path : FilePath) : FilePath where
  absolute := true
  names := collapse (if path.absolute then path.names else working ++ path.names)

/-- The name ends in the given suffix and has something before it. -/
def hasSuffix (path : FilePath) (suffix : String) : Bool :=
  suffix.length < path.name.length && endsWith path.name suffix

end FilePath

end ZodValidators
