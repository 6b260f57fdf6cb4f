import ZodValidators.CommandLine.Run

/-!
# The program

The files that the arguments name are read into a tree, the outcome of the run is found from it, and
what the outcome adds to the tree is written back.
-/

set_option autoImplicit false

namespace ZodValidators

def placeOf (path : String) : Place := FilePath.collapse (FilePath.ofText path).names

def pathOf (place : Place) : String := (FilePath.mk true place).text

def survey (tree : FileTree) (text : String) : IO FileTree := do
  let found := (← IO.currentDir) / text
  if ← found.isDir then
    let tree := { tree with directories := placeOf found.toString :: tree.directories }
    (← found.walkDir).foldlM (fun tree path => do
      if ← path.isDir then
        return { tree with directories := placeOf path.toString :: tree.directories }
      else
        let bytes ← IO.FS.readBinFile path
        return { tree with files := (placeOf path.toString, bytes.toList) :: tree.files }) tree
  else if ← found.pathExists then
    let bytes ← IO.FS.readBinFile found
    return { tree with files := (placeOf found.toString, bytes.toList) :: tree.files }
  else return tree

/-- The tree with what stands at the places that names lead to, one after the other. -/
def surveyWay (tree : FileTree) (names : List String) : IO FileTree := do
  let here ← IO.currentDir
  (List.range (names.length + 1)).foldlM (fun tree count => do
    let found := here / pathOf (names.take count)
    let place := FilePath.collapse (names.take count)
    if ← found.isDir then return { tree with directories := place :: tree.directories }
    else if ← found.pathExists then
      let bytes ← IO.FS.readBinFile found
      return { tree with files := (place, bytes.toList) :: tree.files }
    else return tree) tree

def surveyRead (tree : FileTree) (text : String) : IO FileTree := do
  let path := FilePath.ofText text
  let names := if path.absolute then path.names else tree.working ++ path.names
  survey (← surveyWay tree names) text

def surveyWritten (tree : FileTree) (text : String) : IO FileTree :=
  surveyWay tree ((FilePath.ofText text).resolve tree.working).names

/-- Makes the directories that are new, and writes the files that are new or changed. -/
def writeChanges (before after : FileTree) : IO Unit := do
  after.directories.forM fun place => do
    unless before.directories.contains place do IO.FS.createDirAll (pathOf place)
  after.files.forM fun (place, bytes) => do
    if before.fileAt? place ≠ some bytes then
      IO.FS.createDirAll (pathOf place.dropLast)
      IO.FS.writeBinFile (pathOf place) ⟨bytes.toArray⟩

end ZodValidators

open ZodValidators in
def main (arguments : List String) : IO UInt32 := do
  let working := placeOf (← IO.currentDir).toString
  let start : FileTree := { files := [], directories := [], working }
  let read ← (CommandLine.pathsRead arguments).foldlM surveyRead start
  let tree ← (CommandLine.pathsWritten arguments).foldlM surveyWritten read
  let outcome := CommandLine.run tree arguments
  writeChanges tree outcome.tree
  IO.print outcome.output
  IO.eprint outcome.errorOutput
  if let some breakdown := outcome.breakdown then
    IO.eprintln (CommandLine.errorReport breakdown.message).escaped
  return outcome.exitCode.toUInt32
