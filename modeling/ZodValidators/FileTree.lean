import ZodValidators.FilePath
import ZodValidators.Text.Utf8

/-!
# File trees

The files and directories that a program can see, and what reading and writing does with them. A
place in the tree is the list of names from the root. Names lead through directories only, so a path
through a missing directory or through a file leads nowhere, even if a double dot follows.
-/

set_option autoImplicit false

namespace ZodValidators

/-- A place in the tree: the names from the root. -/
abbrev Place := List String

/-- Files with their bytes, and directories. Whatever lies above a file or a directory is a
directory too. -/
structure FileTree where
  files : List (Place × List UInt8)
  directories : List Place
  working : Place
deriving DecidableEq, Repr

inductive FileFault where
  | notFound
  | isDirectory
  | alreadyExists
  | notADirectory
  | nameTooLong
  | nullCharacter
deriving DecidableEq, Repr

namespace FileTree

def fileAt? (tree : FileTree) (place : Place) : Option (List UInt8) := tree.files.lookup place

def isDirectoryAt (tree : FileTree) (place : Place) : Bool :=
  place.isPrefixOf tree.working ||
  tree.directories.any (fun directory => place.isPrefixOf directory) ||
  tree.files.any fun file => place.isPrefixOf file.1 && place.length < file.1.length

def existsAt (tree : FileTree) (place : Place) : Bool :=
  (tree.fileAt? place).isSome || tree.isDirectoryAt place

def longestName : Nat := 255

def longestPath : Nat := 4095

/-- What rules out a text as a path, whatever files there are. -/
def pathFault? (text : String) : Option FileFault :=
  if text.toList.contains '\x00' then some .nullCharacter
  else if longestPath < text.utf8ByteSize then some .nameTooLong
  else none

/-- The place that names lead to from an existing place. -/
def follow (tree : FileTree) : Place → List String → Except FileFault Place
  | place, [] => .ok place
  | place, name :: rest =>
    if !tree.isDirectoryAt place then .error .notADirectory
    else if name = "" || name = "." then tree.follow place rest
    else if name = ".." then tree.follow place.dropLast rest
    else if longestName < name.utf8ByteSize then .error .nameTooLong
    else if tree.existsAt (place ++ [name]) then tree.follow (place ++ [name]) rest
    else .error .notFound

def locate (tree : FileTree) (absolute : Bool) (names : List String) : Except FileFault Place :=
  tree.follow (if absolute then [] else tree.working) names

/-- The existing place that a text names, or why there is none. An empty text names none, and behind
a slash at its end only a directory is meant. -/
def placeOf (tree : FileTree) (text : String) : Except FileFault Place :=
  match pathFault? text with
  | some fault => .error fault
  | none =>
    if text = "" then .error .notFound
    else tree.locate (FilePath.ofText text).absolute (FilePath.rawNames text)

def find? (tree : FileTree) (text : String) : Option Place := (tree.placeOf text).toOption

def isDirectory (tree : FileTree) (text : String) : Bool := (tree.find? text).any tree.isDirectoryAt

def read (tree : FileTree) (text : String) : Except FileFault (List UInt8) := do
  let place ← tree.placeOf text
  match tree.fileAt? place with
  | some bytes => .ok bytes
  | none => .error .isDirectory

/-- The files below a directory with their paths from there, in the order of these paths. -/
def filesBelow (tree : FileTree) (directory : Place) : List (String × List UInt8) :=
  let below := tree.files.filterMap fun (place, bytes) =>
    if directory.isPrefixOf place then
      some ("/".intercalate (place.drop directory.length), bytes)
    else none
  below.mergeSort fun left right => left.1 ≤ right.1

def makeDirectory (tree : FileTree) (path : FilePath) : Except FileFault FileTree :=
  match pathFault? path.text with
  | some fault => .error fault
  | none =>
    if path.names = [] then .error .alreadyExists
    else do
      let parent ← tree.locate path.absolute path.parent.names
      if !tree.isDirectoryAt parent then .error .notADirectory
      else if longestName < path.name.utf8ByteSize then .error .nameTooLong
      else if path.name = ".." || tree.existsAt (parent ++ [path.name]) then .error .alreadyExists
      else .ok { tree with directories := tree.directories ++ [parent ++ [path.name]] }

/-- Making a directory is fine where there is one already. -/
def allowExisting (tree : FileTree) (path : FilePath) (result : Except FileFault FileTree) :
    Except FileFault FileTree :=
  match result with
  | .ok tree => .ok tree
  | .error fault =>
    match tree.locate path.absolute path.names with
    | .ok place => if tree.isDirectoryAt place then .ok tree else .error fault
    | .error _ => .error fault

/-- A fault, and the tree with what was done before it. -/
structure Refusal where
  fault : FileFault
  left : FileTree
deriving DecidableEq, Repr

/-- The tree with a directory at the path whose names are given last one first, and with all
directories that are missing on the way there. -/
def makeDirectoriesFrom (tree : FileTree) (absolute : Bool) : (reversed : List String) →
    Except Refusal FileTree
  | [] => .ok tree
  | name :: before =>
    let path : FilePath := ⟨absolute, (name :: before).reverse⟩
    match tree.makeDirectory path with
    | .error .notFound => do
      let prepared ← tree.makeDirectoriesFrom absolute before
      (prepared.allowExisting path (prepared.makeDirectory path)).mapError (⟨·, prepared⟩)
    | result => (tree.allowExisting path result).mapError (⟨·, tree⟩)

def makeDirectories (tree : FileTree) (path : FilePath) : Except Refusal FileTree :=
  tree.makeDirectoriesFrom path.absolute path.names.reverse

def putFile (place : Place) (bytes : List UInt8) :
    List (Place × List UInt8) → List (Place × List UInt8)
  | [] => [(place, bytes)]
  | (other, old) :: rest =>
    if other = place then (other, bytes) :: rest else (other, old) :: putFile place bytes rest

def write (tree : FileTree) (path : FilePath) (bytes : List UInt8) : Except FileFault FileTree :=
  match pathFault? path.text with
  | some fault => .error fault
  | none =>
    if path.names = [] then .error .isDirectory
    else do
      let parent ← tree.locate path.absolute path.parent.names
      if !tree.isDirectoryAt parent then .error .notADirectory
      else if longestName < path.name.utf8ByteSize then .error .nameTooLong
      else
        let place := if path.name = ".." then parent.dropLast else parent ++ [path.name]
        if tree.isDirectoryAt place then .error .isDirectory
        else .ok { tree with files := putFile place bytes tree.files }

def writeWithDirectories (tree : FileTree) (path : FilePath) (bytes : List UInt8) :
    Except Refusal FileTree := do
  let prepared ← tree.makeDirectories path.parent
  (prepared.write path bytes).mapError (⟨·, prepared⟩)

end FileTree

end ZodValidators
