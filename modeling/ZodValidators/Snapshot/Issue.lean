/-!
# Issues of a snapshot

Reading a snapshot does not stop at the first thing that is wrong: all issues are collected, in the
order of the members that a snapshot is documented to have. `Checked` is what reading gives.
-/

set_option autoImplicit false

namespace ZodValidators.Snapshot

inductive Step where
  | member (name : String)
  | item (index : Nat)
deriving DecidableEq, Repr

inductive IssueKind where
  | notAnObject (model : String)
  | missing
  | notAList
  | notAText
  | brokenText
  | notABoolean
  | unknownBoolean
deriving DecidableEq, Repr

def IssueKind.label : IssueKind → String
  | .notAnObject _ => "model_type"
  | .missing => "missing"
  | .notAList => "list_type"
  | .notAText => "string_type"
  | .brokenText => "string_unicode"
  | .notABoolean => "bool_type"
  | .unknownBoolean => "bool_parsing"

def IssueKind.message : IssueKind → String
  | .notAnObject model => "Input should be a valid dictionary or instance of " ++ model
  | .missing => "Field required"
  | .notAList => "Input should be a valid list"
  | .notAText => "Input should be a valid string"
  | .brokenText =>
    "Input should be a valid string, unable to parse raw data as a unicode string"
  | .notABoolean => "Input should be a valid boolean"
  | .unknownBoolean => "Input should be a valid boolean, unable to interpret input"

structure Issue where
  location : List Step
  kind : IssueKind
deriving DecidableEq, Repr

/-- A value, or the issues that were found instead. -/
inductive Checked (α : Type) where
  | valid (value : α)
  | invalid (issues : List Issue)
deriving Repr

namespace Checked

variable {α β : Type}

def issue (kind : IssueKind) : Checked α := .invalid [⟨[], kind⟩]

def inside (step : Step) : Checked α → Checked α
  | .valid value => .valid value
  | .invalid issues =>
    .invalid (issues.map fun issue => { issue with location := step :: issue.location })

def map (change : α → β) : Checked α → Checked β
  | .valid value => .valid (change value)
  | .invalid issues => .invalid issues

/-- The value of a function applied to a value, or the issues of both. -/
def apply (function : Checked (α → β)) (argument : Checked α) : Checked β :=
  match function, argument with
  | .valid function, .valid argument => .valid (function argument)
  | .valid _, .invalid issues => .invalid issues
  | .invalid issues, .valid _ => .invalid issues
  | .invalid issues, .invalid more => .invalid (issues ++ more)

instance : Applicative Checked where
  pure := .valid
  map := map
  seq function argument := function.apply (argument ())

end Checked

end ZodValidators.Snapshot
