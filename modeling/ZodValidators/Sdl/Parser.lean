import ZodValidators.Sdl.Lexer
import ZodValidators.Sdl.Parser.Operation

/-!
# Reading schema documents

`parse` reads a text as a document. Each reader of a kind of definition starts behind the keyword. An
extension has to add something.
-/

set_option autoImplicit false

namespace ZodValidators.Sdl

/-- An extension that adds nothing is not expected to end here. -/
def requireAddition (adds : Bool) (input : List Token) : Except Fault Unit :=
  if adds then .ok () else .error (.unexpected input.head?)

def readSchema (ending : Option Fault) (isExtension : Bool) (input : List Token) :
    Except Fault (Definition × Remainder input) := do
  let (directives, directed) ← readDirectives ending true input
  if isExtension then
    let (roots, rest) ← optionalMany ending "\x7b" "\x7d" (readRootType ending) directed.1
    requireAddition (!directives.isEmpty || !roots.isEmpty) rest.1
    return (.other, directed.andMaybe rest)
  else
    let (_, rest) ← many ending "\x7b" "\x7d" (readRootType ending) directed.1
    return (.other, (directed.andThen rest).weaken)

def readScalar (ending : Option Fault) (isExtension : Bool) : Reader Definition := fun input => do
  let (name, named) ← expectName ending input
  let (directives, rest) ← readDirectives ending true named.1
  if isExtension then requireAddition (!directives.isEmpty) rest.1
  return (if isExtension then .other else .scalar name, named.andMaybe rest)

def readObject (ending : Option Fault) (isExtension : Bool) : Reader Definition := fun input => do
  let (name, named) ← expectName ending input
  let (interfaces, implemented) ← readInterfaces ending named.1
  let (directives, directed) ← readDirectives ending true implemented.1
  let (fields, rest) ← optionalMany ending "\x7b" "\x7d" (readObjectField ending) directed.1
  if isExtension then
    requireAddition (!interfaces.isEmpty || !directives.isEmpty || !fields.isEmpty) rest.1
  return (.object name fields, named.andMaybe (implemented.andMaybe (directed.andMaybe rest)))

def readUnion (ending : Option Fault) (isExtension : Bool) : Reader Definition := fun input => do
  let (_, named) ← expectName ending input
  let (directives, directed) ← readDirectives ending true named.1
  let (members, rest) ← readMembers ending directed.1
  if isExtension then requireAddition (!directives.isEmpty || !members.isEmpty) rest.1
  return (.other, named.andMaybe (directed.andMaybe rest))

def readEnum (ending : Option Fault) (isExtension : Bool) (description : Option String) :
    Reader Definition := fun input => do
  let (name, named) ← expectName ending input
  let (directives, directed) ← readDirectives ending true named.1
  let (values, rest) ← optionalMany ending "\x7b" "\x7d" (readEnumValue ending) directed.1
  if isExtension then requireAddition (!directives.isEmpty || !values.isEmpty) rest.1
  return (if isExtension then .other else .enumeration name values description,
    named.andMaybe (directed.andMaybe rest))

def readInput (ending : Option Fault) (isExtension : Bool) (description : Option String) :
    Reader Definition := fun input => do
  let (name, named) ← expectName ending input
  let (directives, directed) ← readDirectives ending true named.1
  let (fields, rest) ← optionalMany ending "\x7b" "\x7d" (readInputValue ending) directed.1
  if isExtension then requireAddition (!directives.isEmpty || !fields.isEmpty) rest.1
  return (.input name fields description, named.andMaybe (directed.andMaybe rest))

def readDirectiveDefinition (ending : Option Fault) : Reader Definition := fun input => do
  let inside ← expectMark ending "@" input
  let (_, named) ← expectName ending inside.1
  let (_, behind) ← optionalMany ending "(" ")" (readInputValue ending) named.1
  let (_, repeated) ← optionalKeyword ending "repeatable" behind.1
  let placed ← expectKeyword ending "on" repeated.1
  let (_, rest) ← separated ending "|" (readDirectivePlace ending) placed.1
  return (.other, inside.andThen (named.andThen (behind.andThen (repeated.andThen
    (placed.andThen rest)))))

inductive DefinitionKind where
  | schema
  | scalar
  | object
  | interface
  | union
  | enumeration
  | input
  | directive
deriving DecidableEq, Repr

def DefinitionKind.ofKeyword? (keyword : String) : Option DefinitionKind :=
  [("schema", DefinitionKind.schema), ("scalar", .scalar), ("type", .object),
   ("interface", .interface), ("union", .union), ("enum", .enumeration), ("input", .input),
   ("directive", .directive)].lookup keyword

def weaken {α : Type} {input : List Token} (result : Except Fault (α × Rest input)) :
    Except Fault (α × Remainder input) :=
  result.map fun (value, rest) => (value, rest.weaken)

def readKind (ending : Option Fault) (kind : DefinitionKind) (isExtension : Bool)
    (description : Option String) (input : List Token) :
    Except Fault (Definition × Remainder input) :=
  match kind with
  | .schema => readSchema ending isExtension input
  | .scalar => weaken (readScalar ending isExtension input)
  | .object => weaken (readObject ending isExtension input)
  | .interface =>
    weaken ((readObject ending isExtension input).map fun (_, rest) => (.other, rest))
  | .union => weaken (readUnion ending isExtension input)
  | .enumeration => weaken (readEnum ending isExtension description input)
  | .input => weaken (readInput ending isExtension description input)
  | .directive => weaken (readDirectiveDefinition ending input)

/-- An extension. Directives are not extended. -/
def readExtension (ending : Option Fault) : Reader Definition := fun input => do
  let inside ← expectKeyword ending "extend" input
  let kind : Option DefinitionKind := match inside.1.head? with
    | some (.name keyword) => (DefinitionKind.ofKeyword? keyword).filter (· ≠ .directive)
    | _ => none
  match kind with
  | some kind =>
    let (_, behind) ← expectName ending inside.1
    let (definition, rest) ← readKind ending kind true none behind.1
    return (definition, inside.andThen (behind.andMaybe rest))
  | none => .error (.unexpected inside.1.head?)

def readExecutable (ending : Option Fault) : Reader Definition := fun input => do
  let (keyword, inside) ← expectName ending input
  let (_, rest) ←
    if keyword = "fragment" then readFragment ending inside.1 else readOperation ending inside.1
  return (.other, inside.andThen rest)

/-- The token behind the first one, which is looked at before the first one is taken. -/
def lookAhead (ending : Option Fault) (rest : List Token) : Except Fault (Option Token) :=
  match rest, ending with
  | [], some fault => .error fault
  | rest, _ => .ok rest.head?

def Token.isDescription : Token → Bool
  | .text _ => true
  | .blockText _ => true
  | _ => false

/-- A definition with its description. The keyword, which stands behind the description, decides
what is defined before anything is taken. -/
def readDefinition (ending : Option Fault) : Reader Definition := fun input => do
  let found := input.head?
  if found = some (.mark "\x7b") then
    let (_, rest) ← readSelections ending input
    return (.other, rest)
  else
    let described := found.any Token.isDescription
    let keyword ← if described then lookAhead ending input.tail else .ok found
    if described && keyword = some (.mark "\x7b") then .error .describedSelection
    else
      match keyword with
      | some (.name word) =>
        match DefinitionKind.ofKeyword? word with
        | some kind =>
          let (description, inside) ← readDescription ending input
          let (_, behind) ← expectName ending inside.1
          let (definition, rest) ← readKind ending kind false description behind.1
          return (definition, inside.andThen (behind.andMaybe rest))
        | none =>
          if rootNames.contains word || word = "fragment" then
            let (_, inside) ← readDescription ending input
            let (definition, rest) ← readExecutable ending inside.1
            return (definition, inside.andThen rest)
          else if described then .error .unexpectedDescription
          else if word = "extend" then readExtension ending input
          else .error (.unexpected keyword)
      | _ => .error (.unexpected keyword)

/-! ## Documents -/

def readDefinitions (ending : Option Fault) (input : List Token) : Except Fault Document :=
  match readDefinition ending input with
  | .error fault => .error fault
  | .ok (definition, ⟨[], _⟩) => .ok [definition]
  | .ok (definition, ⟨token :: rest, _shorter⟩) =>
    match readDefinitions ending (token :: rest) with
    | .error fault => .error fault
    | .ok others => .ok (definition :: others)
termination_by input.length
decreasing_by exact _shorter

def parse (text : List Char) : Except Fault Document :=
  match tokens text with
  | ([], some fault) => .error fault
  | (input, ending) => readDefinitions ending input

end ZodValidators.Sdl
