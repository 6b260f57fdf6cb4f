import ZodValidators.CommandLine.Arguments
import ZodValidators.CommandLine.Outcome

/-!
# Usage

The program has the command `generate` and otherwise only tells about itself. A complaint says how
the arguments do not fit; it is reported with the usage of the command that it is about.
-/

set_option autoImplicit false

namespace ZodValidators.CommandLine

open ZodValidators.Text

inductive Level where
  | program
  | generate
deriving DecidableEq, Repr

def Level.words : Level → String
  | .program => "main"
  | .generate => "main generate"

def Level.usage : Level → String
  | .program => "Usage: main [OPTIONS] COMMAND [ARGS]..."
  | .generate => "Usage: main generate [OPTIONS]"

inductive Complaint where
  | switch (fault : SwitchFault)
  | missingOption (spellings : String)
  | invalidValue (spellings message : String)
  | extraArguments (arguments : List String)
  | missingCommand
  | unknownCommand (name : String) (similar : List String)
deriving DecidableEq, Repr

def Complaint.message : Complaint → String
  | .switch (.unknown spelling similar) =>
    "No such option " ++ quoted spelling ++ "." ++ suggestionText similar
  | .switch (.missingValue spelling) => "Option " ++ quoted spelling ++ " requires an argument."
  | .switch (.unwantedValue spelling) => "Option " ++ quoted spelling ++ " does not take a value."
  | .missingOption spellings => "Missing option " ++ spellings ++ "."
  | .invalidValue spellings message => "Invalid value for " ++ spellings ++ ": " ++ message
  | .extraArguments arguments =>
    "Got unexpected extra argument" ++ (if arguments.length = 1 then "" else "s") ++ " (" ++
      " ".intercalate arguments ++ ")"
  | .missingCommand => "Missing command."
  | .unknownCommand name similar =>
    "No such command " ++ quoted name ++ "." ++ suggestionText similar

/-- The complaint is reported without the usage: it is about the value of a switch that is known. -/
def Complaint.isBrief : Complaint → Bool
  | .switch (.missingValue _) | .switch (.unwantedValue _) => true
  | _ => false

def errorReport (message : Text) : Text := "Error: " ++ message

def Complaint.report (level : Level) (complaint : Complaint) : List Text :=
  let usage : List Text :=
    [level.usage, "Try " ++ quoted (level.words ++ " --help") ++ " for help.", ""]
  (if complaint.isBrief then [] else usage) ++ [errorReport complaint.message]

/-- A run that ends with a complaint and touches nothing. -/
def Complaint.outcome (tree : FileTree) (level : Level) (complaint : Complaint) : Outcome where
  exitCode := 2
  transcript := { reported := complaint.report level }
  tree

end ZodValidators.CommandLine
