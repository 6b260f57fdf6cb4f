import ZodValidators.Rest
import ZodValidators.Sdl.Token

/-!
# Readers of tokens

The tokens are read one after the other, so a fault of the text is met only where its first token
would be taken: `ending` is the fault that ends the tokens, if they do not end with the text. Every
reader returns the tokens behind what it read.
-/

set_option autoImplicit false

namespace ZodValidators.Sdl

/-- The tokens behind the first one. The fault that follows the last token is met here. -/
def advance (ending : Option Fault) (token : Token) (rest : List Token) :
    Except Fault (Rest (token :: rest)) :=
  match rest, ending with
  | [], some fault => .error fault
  | rest, _ => .ok (.tail token rest)

def startsWithMark (mark : String) (input : List Token) : Bool :=
  match input with
  | .mark found :: _ => found = mark
  | _ => false

def expectMark (ending : Option Fault) (mark : String) (input : List Token) :
    Except Fault (Rest input) :=
  match input with
  | token :: rest =>
    if token = .mark mark then advance ending token rest
    else .error (.expected ("'" ++ mark ++ "'") (some token))
  | [] => .error (.expected ("'" ++ mark ++ "'") none)

def optionalMark (ending : Option Fault) (mark : String) (input : List Token) :
    Except Fault (Bool × Remainder input) :=
  match input with
  | token :: rest =>
    if token = .mark mark then do return (true, (← advance ending token rest).weaken)
    else .ok (false, .all _)
  | [] => .ok (false, .all _)

def expectName (ending : Option Fault) (input : List Token) : Except Fault (String × Rest input) :=
  match input with
  | .name name :: rest => do
    return (name, ← advance ending (.name name) rest)
  | _ => .error (.expected "Name" input.head?)

def expectKeyword (ending : Option Fault) (keyword : String) (input : List Token) :
    Except Fault (Rest input) :=
  match input with
  | token :: rest =>
    if token = .name keyword then advance ending token rest
    else .error (.expected ("'" ++ keyword ++ "'") (some token))
  | [] => .error (.expected ("'" ++ keyword ++ "'") none)

def optionalKeyword (ending : Option Fault) (keyword : String) (input : List Token) :
    Except Fault (Bool × Remainder input) :=
  match input with
  | token :: rest =>
    if token = .name keyword then do return (true, (← advance ending token rest).weaken)
    else .ok (false, .all _)
  | [] => .ok (false, .all _)

abbrev Reader (α : Type) := (input : List Token) → Except Fault (α × Rest input)

def itemsUntil {α : Type} (ending : Option Fault) (close : String) (item : Reader α)
    (input : List Token) : Except Fault (List α × Rest input) :=
  if startsWithMark close input then do
    return ([], ← expectMark ending close input)
  else
    match item input with
    | .error fault => .error fault
    | .ok (first, behind) =>
      match itemsUntil ending close item behind.1 with
      | .error fault => .error fault
      | .ok (others, rest) => .ok (first :: others, behind.andThen rest)
termination_by input.length
decreasing_by exact behind.2

def many {α : Type} (ending : Option Fault) (opening close : String) (item : Reader α) :
    Reader (List α) := fun input => do
  let inside ← expectMark ending opening input
  let (first, behind) ← item inside.1
  let (others, rest) ← itemsUntil ending close item behind.1
  return (first :: others, inside.andThen (behind.andThen rest))

def optionalMany {α : Type} (ending : Option Fault) (opening close : String) (item : Reader α)
    (input : List Token) : Except Fault (List α × Remainder input) :=
  if startsWithMark opening input then do
    let (items, rest) ← many ending opening close item input
    return (items, rest.weaken)
  else .ok ([], .all input)

def moreSeparated {α : Type} (ending : Option Fault) (separator : String) (item : Reader α)
    (input : List Token) : Except Fault (List α × Remainder input) :=
  if startsWithMark separator input then
    match expectMark ending separator input with
    | .error fault => .error fault
    | .ok inside =>
      match item inside.1 with
      | .error fault => .error fault
      | .ok (first, behind) =>
        match moreSeparated ending separator item behind.1 with
        | .error fault => .error fault
        | .ok (others, rest) =>
          .ok (first :: others, (inside.andThen (behind.andMaybe rest)).weaken)
  else .ok ([], .all input)
termination_by input.length
decreasing_by exact (inside.andThen behind).2

/-- One or more items with separating marks between them, and possibly one in front. -/
def separated {α : Type} (ending : Option Fault) (separator : String) (item : Reader α) :
    Reader (List α) := fun input => do
  let (_, inside) ← optionalMark ending separator input
  let (first, behind) ← item inside.1
  let (others, rest) ← moreSeparated ending separator item behind.1
  return (first :: others, inside.andThen (behind.andMaybe rest))

end ZodValidators.Sdl
