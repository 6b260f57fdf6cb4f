import ZodValidators.FileTree
import ZodValidators.Template.Basic
import ZodValidators.Text.Basic

/-!
# Outcomes of a run

A run prints lines, reports lines, leaves the files in some state, and ends with an exit code. It
breaks down where the files or the template are not what they have to be.
-/

set_option autoImplicit false

namespace ZodValidators.CommandLine

inductive Breakdown where
  | file (fault : FileFault)
  | encoding (fault : Text.Utf8.Fault)
  | template (fault : Template.Fault)
  | surrogate
deriving DecidableEq, Repr

def Breakdown.message : Breakdown → String
  | .file .notFound => "No such file or directory"
  | .file .isDirectory => "Is a directory"
  | .file .alreadyExists => "File exists"
  | .file .notADirectory => "Not a directory"
  | .file .nameTooLong => "File name too long"
  | .file .nullCharacter => "embedded null byte"
  | .encoding fault => fault.message
  | .template fault => fault.message
  | .surrogate => "Half of a surrogate pair cannot be written"

structure Transcript where
  printed : List String := []
  reported : List Text := []
deriving DecidableEq, Repr

namespace Transcript

def print (transcript : Transcript) (lines : List String) : Transcript :=
  { transcript with printed := transcript.printed ++ lines }

def report (transcript : Transcript) (lines : List Text) : Transcript :=
  { transcript with reported := transcript.reported ++ lines }

end Transcript

structure Outcome where
  exitCode : Nat
  transcript : Transcript := {}
  tree : FileTree
  breakdown : Option Breakdown := none
deriving DecidableEq, Repr

namespace Outcome

def ofLines (lines : List String) : String := String.join (lines.map (· ++ "\n"))

def output (outcome : Outcome) : String := ofLines outcome.transcript.printed

/-- The text on the standard error output, where half of a surrogate pair is escaped. -/
def errorOutput (outcome : Outcome) : String :=
  ofLines (outcome.transcript.reported.map Text.escaped)

end Outcome

end ZodValidators.CommandLine
