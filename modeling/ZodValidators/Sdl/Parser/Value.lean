import ZodValidators.Sdl.Parser.Basic
import ZodValidators.Sdl.Syntax

/-!
# Reading values and types

Values, the directives that have them as arguments, and types. In a constant no variable may
stand.
-/

set_option autoImplicit false

namespace ZodValidators.Sdl

/-! ## Values -/

def Value.ofName (name : String) : Value :=
  if name = "true" then .boolean true
  else if name = "false" then .boolean false
  else if name = "null" then .null
  else .enumeration name

/-- A variable, which is refused in a constant. Outside of constants its value is not kept. -/
def readVariable (ending : Option Fault) (constant : Bool) : Reader Value := fun input => do
  let behind ← expectMark ending "$" input
  if constant then
    match behind.1 with
    | .name name :: _ => .error (.variableInConstant name)
    | _ => .error (.unexpected (some (.mark "$")))
  else
    let (_, rest) ← expectName ending behind.1
    return (.null, behind.andThen rest)

def Token.value? : Token → Option Value
  | .mark _ => none
  | .name content => some (Value.ofName content)
  | .integer numeral => some (.integer numeral)
  | .real numeral => some (.real numeral)
  | .text content => some (.text content)
  | .blockText content => some (.text content)

def readLiteral (ending : Option Fault) : Reader Value := fun input =>
  match input with
  | [] => .error (.unexpected none)
  | token :: rest =>
    match token.value? with
    | some value => do return (value, ← advance ending token rest)
    | none => .error (.unexpected (some token))

mutual

def readValue (ending : Option Fault) (constant : Bool) (input : List Token) :
    Except Fault (Value × Rest input) :=
  if startsWithMark "[" input then
    match expectMark ending "[" input with
    | .error fault => .error fault
    | .ok inside =>
      match readItems ending constant inside.1 with
      | .error fault => .error fault
      | .ok (items, rest) => .ok (.list items, inside.andThen rest)
  else if startsWithMark "\x7b" input then
    match expectMark ending "\x7b" input with
    | .error fault => .error fault
    | .ok inside =>
      match readFields ending constant inside.1 with
      | .error fault => .error fault
      | .ok (fields, rest) => .ok (.object fields, inside.andThen rest)
  else if startsWithMark "$" input then readVariable ending constant input
  else readLiteral ending input
termination_by 2 * input.length
decreasing_by
  all_goals
    have := inside.2
    omega

def readItems (ending : Option Fault) (constant : Bool) (input : List Token) :
    Except Fault (List Value × Rest input) :=
  if startsWithMark "]" input then do
    return ([], ← expectMark ending "]" input)
  else
    match readValue ending constant input with
    | .error fault => .error fault
    | .ok (first, behind) =>
      match readItems ending constant behind.1 with
      | .error fault => .error fault
      | .ok (others, rest) => .ok (first :: others, behind.andThen rest)
termination_by 2 * input.length + 1
decreasing_by
  · omega
  · have := behind.2
    omega

def readFields (ending : Option Fault) (constant : Bool) (input : List Token) :
    Except Fault (List (String × Value) × Rest input) :=
  if startsWithMark "\x7d" input then do
    return ([], ← expectMark ending "\x7d" input)
  else
    match expectName ending input with
    | .error fault => .error fault
    | .ok (name, named) =>
      match expectMark ending ":" named.1 with
      | .error fault => .error fault
      | .ok inside =>
        match readValue ending constant inside.1 with
        | .error fault => .error fault
        | .ok (first, behind) =>
          match readFields ending constant behind.1 with
          | .error fault => .error fault
          | .ok (others, rest) =>
            .ok ((name, first) :: others, named.andThen (inside.andThen (behind.andThen rest)))
termination_by 2 * input.length + 1
decreasing_by
  · have := (named.andThen inside).2
    simp only [Rest.andThen] at this
    omega
  · have := (named.andThen (inside.andThen behind)).2
    simp only [Rest.andThen] at this
    omega

end

def readArgument (ending : Option Fault) (constant : Bool) :
    Reader (String × Value) := fun input => do
  let (name, named) ← expectName ending input
  let inside ← expectMark ending ":" named.1
  let (value, rest) ← readValue ending constant inside.1
  return ((name, value), named.andThen (inside.andThen rest))

def readDirective (ending : Option Fault) (constant : Bool) : Reader Directive := fun input => do
  let inside ← expectMark ending "@" input
  let (name, named) ← expectName ending inside.1
  let (arguments, rest) ← optionalMany ending "(" ")" (readArgument ending constant) named.1
  return ({ name, arguments }, inside.andThen (named.andMaybe rest))

def readDirectives (ending : Option Fault) (constant : Bool) (input : List Token) :
    Except Fault (List Directive × Remainder input) :=
  if startsWithMark "@" input then
    match readDirective ending constant input with
    | .error fault => .error fault
    | .ok (first, behind) =>
      match readDirectives ending constant behind.1 with
      | .error fault => .error fault
      | .ok (others, rest) => .ok (first :: others, (behind.andMaybe rest).weaken)
  else .ok ([], .all input)
termination_by input.length
decreasing_by exact behind.2

/-! ## Types -/

def readType (ending : Option Fault) (input : List Token) :
    Except Fault (TypeExpr × Rest input) :=
  if startsWithMark "[" input then
    match expectMark ending "[" input with
    | .error fault => .error fault
    | .ok inside =>
      match readType ending inside.1 with
      | .error fault => .error fault
      | .ok (item, behind) => do
        let closed ← expectMark ending "]" behind.1
        let (nonNull, rest) ← optionalMark ending "!" closed.1
        return (.list item nonNull, inside.andThen (behind.andThen (closed.andMaybe rest)))
  else do
    let (name, named) ← expectName ending input
    let (nonNull, rest) ← optionalMark ending "!" named.1
    return (.named name nonNull, named.andMaybe rest)
termination_by input.length
decreasing_by exact inside.2

end ZodValidators.Sdl
