import ZodValidators.Sdl.Parser.Part

/-!
# Reading operations

A document may hold operations and fragments, which no validator is made from.
-/

set_option autoImplicit false

namespace ZodValidators.Sdl

def readFragmentName (ending : Option Fault) : Reader Unit := fun input => do
  if input.head? = some (.name "on") then .error (.unexpected input.head?)
  else
    let (_, rest) ← expectName ending input
    return ((), rest)

/-- The points of a fragment and what stands before its selections. Selections follow unless the
fragment is only named. -/
def readSpread (ending : Option Fault) : Reader Bool := fun input => do
  let inside ← expectMark ending "..." input
  let (conditional, conditioned) ← optionalKeyword ending "on" inside.1
  match conditioned.1.head? with
  | some (.name _) =>
    let (_, named) ← expectName ending conditioned.1
    let (_, rest) ← readDirectives ending false named.1
    return (conditional, inside.andThen (conditioned.andThen (named.andMaybe rest)))
  | found =>
    if conditional then .error (.expected "Name" found)
    else
      let (_, rest) ← readDirectives ending false conditioned.1
      return (true, inside.andMaybe (conditioned.andMaybe rest))

def readAliased (ending : Option Fault) (input : List Token) :
    Except Fault (Unit × Remainder input) := do
  let (found, inside) ← optionalMark ending ":" input
  if found then
    let (_, rest) ← expectName ending inside.1
    return ((), (inside.andThen rest).weaken)
  else
    return ((), .all input)

def readFieldHead (ending : Option Fault) : Reader Unit := fun input => do
  let (_, named) ← expectName ending input
  let (_, aliased) ← readAliased ending named.1
  let (_, behind) ← optionalMany ending "(" ")" (readArgument ending false) aliased.1
  let (_, rest) ← readDirectives ending false behind.1
  return ((), named.andMaybe (aliased.andMaybe (behind.andMaybe rest)))

mutual

def readSelections (ending : Option Fault) (input : List Token) :
    Except Fault (Unit × Rest input) :=
  match expectMark ending "\x7b" input with
  | .error fault => .error fault
  | .ok inside =>
    match readSelection ending inside.1 with
    | .error fault => .error fault
    | .ok (_, behind) =>
      match moreSelections ending behind.1 with
      | .error fault => .error fault
      | .ok (_, rest) => .ok ((), inside.andThen (behind.andThen rest))
termination_by 3 * input.length
decreasing_by
  · have := inside.2
    omega
  · have := inside.2
    have := behind.2
    omega

def moreSelections (ending : Option Fault) (input : List Token) :
    Except Fault (Unit × Rest input) :=
  if startsWithMark "\x7d" input then do
    return ((), ← expectMark ending "\x7d" input)
  else
    match readSelection ending input with
    | .error fault => .error fault
    | .ok (_, behind) =>
      match moreSelections ending behind.1 with
      | .error fault => .error fault
      | .ok (_, rest) => .ok ((), behind.andThen rest)
termination_by 3 * input.length + 2
decreasing_by
  · omega
  · have := behind.2
    omega

def readSelection (ending : Option Fault) (input : List Token) :
    Except Fault (Unit × Rest input) :=
  if startsWithMark "..." input then
    match readSpread ending input with
    | .error fault => .error fault
    | .ok (hasSelections, behind) =>
      if hasSelections then
        match readSelections ending behind.1 with
        | .error fault => .error fault
        | .ok (_, rest) => .ok ((), behind.andThen rest)
      else .ok ((), behind)
  else
    match readFieldHead ending input with
    | .error fault => .error fault
    | .ok (_, behind) =>
      if startsWithMark "\x7b" behind.1 then
        match readSelections ending behind.1 with
        | .error fault => .error fault
        | .ok (_, rest) => .ok ((), behind.andThen rest)
      else .ok ((), behind)
termination_by 3 * input.length + 1
decreasing_by
  all_goals
    have := behind.2
    omega

end

def readVariableDefinition (ending : Option Fault) : Reader Unit := fun input => do
  let (_, described) ← readDescription ending input
  let inside ← expectMark ending "$" described.1
  let (_, named) ← expectName ending inside.1
  let behind ← expectMark ending ":" named.1
  let (_, typed) ← readType ending behind.1
  let (_, defaulted) ← readDefault ending typed.1
  let (_, rest) ← readDirectives ending true defaulted.1
  return ((), described.andThen (inside.andThen (named.andThen (behind.andThen
    (typed.andMaybe (defaulted.andMaybe rest))))))

def optionalName (ending : Option Fault) (input : List Token) :
    Except Fault (Unit × Remainder input) :=
  match input with
  | .name name :: rest => do return ((), (← advance ending (.name name) rest).weaken)
  | input => .ok ((), .all input)

def readOperation (ending : Option Fault) : Reader Unit := fun input => do
  let (_, named) ← optionalName ending input
  let (_, behind) ← optionalMany ending "(" ")" (readVariableDefinition ending) named.1
  let (_, directed) ← readDirectives ending false behind.1
  let (_, rest) ← readSelections ending directed.1
  return ((), named.andThen (behind.andThen (directed.andThen rest)))

def readFragment (ending : Option Fault) : Reader Unit := fun input => do
  let (_, named) ← readFragmentName ending input
  let inside ← expectKeyword ending "on" named.1
  let (_, behind) ← expectName ending inside.1
  let (_, directed) ← readDirectives ending false behind.1
  let (_, rest) ← readSelections ending directed.1
  return ((), named.andThen (inside.andThen (behind.andThen (directed.andThen rest))))

end ZodValidators.Sdl
