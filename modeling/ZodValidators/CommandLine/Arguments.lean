import ZodValidators.CommandLine.ScalarMapping
import ZodValidators.CommandLine.Suggestion

/-!
# Switches among arguments

A command knows a list of switches. `readArguments` separates the switches in a list of arguments,
with their values, from the other arguments. A switch is spelled out behind two dashes, where its
value may follow an equals sign, or is one letter behind a single dash, where more letters or its
value may follow. Otherwise the value is the next argument, whatever that looks like.
-/

set_option autoImplicit false

namespace ZodValidators.CommandLine

structure Switch (κ : Type) where
  key : κ
  long : String
  short : Option Char := none
  takesValue : Bool := true
deriving DecidableEq, Repr

inductive SwitchFault where
  /-- No switch has this spelling. There may be switches with similar ones. -/
  | unknown (spelling : String) (similar : List String)
  | missingValue (spelling : String)
  | unwantedValue (spelling : String)
deriving DecidableEq, Repr

structure Arguments (κ : Type) where
  switches : List (κ × String) := []
  others : List String := []
deriving DecidableEq, Repr

namespace Arguments

variable {κ : Type}

def values [DecidableEq κ] (arguments : Arguments κ) (key : κ) : List String :=
  arguments.switches.filterMap fun (other, value) => if other = key then some value else none

/-- The last value of a switch, which is the one that counts. -/
def value? [DecidableEq κ] (arguments : Arguments κ) (key : κ) : Option String :=
  (arguments.values key).getLast?

def has [DecidableEq κ] (arguments : Arguments κ) (key : κ) : Bool :=
  (arguments.value? key).isSome

def withSwitches (switches : List (κ × String)) (arguments : Arguments κ) : Arguments κ :=
  { arguments with switches := switches ++ arguments.switches }

def withOther (argument : String) (arguments : Arguments κ) : Arguments κ :=
  { arguments with others := argument :: arguments.others }

end Arguments

/-- The switches of one argument. The last one may still wait for its value. -/
structure SwitchGroup (κ : Type) where
  switches : List (κ × String) := []
  waiting : Option (κ × String) := none

section Reading

variable {κ : Type} (switches : List (Switch κ))

def readLetters : List Char → Except SwitchFault (SwitchGroup κ)
  | [] => .ok {}
  | letter :: rest =>
    let spelling := String.ofList ['-', letter]
    match switches.find? fun switch => switch.short = some letter with
    | none => .error (.unknown spelling [])
    | some switch =>
      if !switch.takesValue then do
        let group ← readLetters rest
        return { group with switches := (switch.key, "") :: group.switches }
      else if rest = [] then .ok { waiting := some (switch.key, spelling) }
      else .ok { switches := [(switch.key, String.ofList rest)] }

/-- The switches that an argument with a dash in front gives. A full spelling goes before
letters. -/
def readSwitches (argument : String) : Except SwitchFault (SwitchGroup κ) :=
  let (spelling, attached) : String × Option String :=
    match splitAtEquals? argument.toList with
    | some (before, behind) => (String.ofList before, some (String.ofList behind))
    | none => (argument, none)
  match switches.find? fun switch => switch.long = spelling with
  | some switch =>
    match attached with
    | some value =>
      if switch.takesValue then .ok { switches := [(switch.key, value)] }
      else .error (.unwantedValue spelling)
    | none =>
      if switch.takesValue then .ok { waiting := some (switch.key, spelling) }
      else .ok { switches := [(switch.key, "")] }
  | none =>
    match argument.toList with
    | '-' :: '-' :: _ =>
      .error (.unknown spelling (suggestions (switches.map Switch.long) spelling))
    | letters => readLetters switches letters.tail

/-- An argument that gives switches. A dash alone does not. -/
def isSwitch (argument : String) : Bool :=
  match argument.toList with
  | '-' :: _ :: _ => true
  | _ => false

/-- The switches and the other arguments. Two dashes end the switches; where `mixed` does not hold,
the first other argument ends them too. -/
def readArguments (mixed : Bool) : List String → Except SwitchFault (Arguments κ)
  | [] => .ok {}
  | argument :: rest =>
    if argument = "--" then .ok { others := rest }
    else if isSwitch argument then
      match readSwitches switches argument with
      | .error fault => .error fault
      | .ok ⟨found, none⟩ => (readArguments mixed rest).map (Arguments.withSwitches found)
      | .ok ⟨found, some (key, spelling)⟩ =>
        match rest with
        | [] => .error (.missingValue spelling)
        | value :: rest =>
          (readArguments mixed rest).map (Arguments.withSwitches (found ++ [(key, value)]))
    else if mixed then (readArguments mixed rest).map (Arguments.withOther argument)
    else .ok { others := argument :: rest }

end Reading

end ZodValidators.CommandLine
