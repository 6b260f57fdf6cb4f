import ZodValidators.Sdl.Parser.Value

/-!
# Reading the parts of definitions

Descriptions, fields, enum values, and the lists of names that definitions have.
-/

set_option autoImplicit false

namespace ZodValidators.Sdl

def readDescription (ending : Option Fault) (input : List Token) :
    Except Fault (Option String × Remainder input) :=
  match input with
  | .text content :: rest => do
    return (some content, (← advance ending (.text content) rest).weaken)
  | .blockText content :: rest => do
    return (some content, (← advance ending (.blockText content) rest).weaken)
  | input => .ok (none, .all input)

def readDefault (ending : Option Fault) (input : List Token) :
    Except Fault (Option Value × Remainder input) := do
  let (found, inside) ← optionalMark ending "=" input
  if found then
    let (value, rest) ← readValue ending true inside.1
    return (some value, (inside.andThen rest).weaken)
  else
    return (none, .all input)

def readInputValue (ending : Option Fault) : Reader InputValue := fun input => do
  let (description, described) ← readDescription ending input
  let (name, named) ← expectName ending described.1
  let inside ← expectMark ending ":" named.1
  let (type, typed) ← readType ending inside.1
  let (default, defaulted) ← readDefault ending typed.1
  let (directives, rest) ← readDirectives ending true defaulted.1
  return ({ name, type, default, directives, description },
    described.andThen (named.andThen (inside.andThen (typed.andMaybe (defaulted.andMaybe rest)))))

def readObjectField (ending : Option Fault) : Reader ObjectField := fun input => do
  let (description, described) ← readDescription ending input
  let (name, named) ← expectName ending described.1
  let (arguments, behind) ← optionalMany ending "(" ")" (readInputValue ending) named.1
  let inside ← expectMark ending ":" behind.1
  let (_, typed) ← readType ending inside.1
  let (_, rest) ← readDirectives ending true typed.1
  return ({ name, arguments, description },
    described.andThen (named.andThen (behind.andThen (inside.andThen (typed.andMaybe rest)))))

def Token.content? : Token → Option String
  | .mark _ => none
  | .name content => some content
  | .integer numeral => some numeral
  | .real numeral => some numeral
  | .text content => some content
  | .blockText content => some content

/-- A token whose text may not be the name of an enum value. -/
def isReserved (token : Token) : Bool :=
  token.content? = some "true" || token.content? = some "false" || token.content? = some "null"

def readEnumValue (ending : Option Fault) : Reader String := fun input => do
  let (_, described) ← readDescription ending input
  match described.1.head?.filter isReserved with
  | some token => .error (.reservedEnumValue token)
  | none =>
    let (name, named) ← expectName ending described.1
    let (_, rest) ← readDirectives ending true named.1
    return (name, described.andThen (named.andMaybe rest))

def readInterfaces (ending : Option Fault) (input : List Token) :
    Except Fault (List String × Remainder input) := do
  let (found, inside) ← optionalKeyword ending "implements" input
  if found then
    let (names, rest) ← separated ending "&" (expectName ending) inside.1
    return (names, (inside.andThen rest).weaken)
  else
    return ([], .all input)

def readMembers (ending : Option Fault) (input : List Token) :
    Except Fault (List String × Remainder input) := do
  let (found, inside) ← optionalMark ending "=" input
  if found then
    let (names, rest) ← separated ending "|" (expectName ending) inside.1
    return (names, (inside.andThen rest).weaken)
  else
    return ([], .all input)

def rootNames : List String := ["query", "mutation", "subscription"]

def readRootType (ending : Option Fault) : Reader String := fun input => do
  let (kind, named) ← expectName ending input
  if rootNames.contains kind then
    let inside ← expectMark ending ":" named.1
    let (name, rest) ← expectName ending inside.1
    return (name, named.andThen (inside.andThen rest))
  else .error (.unexpected (some (.name kind)))

def directivePlaces : List String :=
  ["QUERY", "MUTATION", "SUBSCRIPTION", "FIELD", "FRAGMENT_DEFINITION", "FRAGMENT_SPREAD",
   "INLINE_FRAGMENT", "VARIABLE_DEFINITION", "SCHEMA", "SCALAR", "OBJECT", "FIELD_DEFINITION",
   "ARGUMENT_DEFINITION", "INTERFACE", "UNION", "ENUM", "ENUM_VALUE", "INPUT_OBJECT",
   "INPUT_FIELD_DEFINITION"]

def readDirectivePlace (ending : Option Fault) : Reader String := fun input => do
  let (name, rest) ← expectName ending input
  if directivePlaces.contains name then return (name, rest)
  else .error (.unexpected (some (.name name)))

end ZodValidators.Sdl
