import ZodValidators.Rest
import ZodValidators.Sdl.Token
import ZodValidators.Text.Escape

/-!
# The tokens of a document

`tokens` gives the tokens of a text in order up to the first fault, if there is one. White space,
commas, byte order marks and comments separate tokens. Every reader returns the characters behind
what it read, which are fewer than before. The lines of a text block lose the indent that all of
them but the first have in common, and the blank lines at both ends are left out.
-/

set_option autoImplicit false

namespace ZodValidators.Sdl

open ZodValidators.Text

/-! ## Text blocks -/

def isIndent (character : Char) : Bool := character = ' ' || character = '\t'

def indentOf (line : List Char) : Nat := (line.takeWhile isIndent).length

def isBlankLine (line : List Char) : Bool := line.all isIndent

def commonIndent? (lines : List (List Char)) : Option Nat :=
  ((lines.filter fun line => !isBlankLine line).map indentOf).min?

def dropBlankEnds (lines : List (List Char)) : List (List Char) :=
  ((lines.dropWhile isBlankLine).reverse.dropWhile isBlankLine).reverse

/-- A line without an indent, or an empty line if no indent is known. -/
def withoutIndent (indent : Option Nat) (line : List Char) : List Char :=
  match indent with
  | some width => line.drop width
  | none => []

/-- The lines of the text that a block stands for. -/
def dedent : List (List Char) → List (List Char)
  | [] => []
  | first :: rest => dropBlankEnds (first :: rest.map (withoutIndent (commonIndent? rest)))

def joinLines (lines : List (List Char)) : String :=
  "\n".intercalate (lines.map String.ofList)

/-! ## Tokens -/

def isNameStart (character : Char) : Bool := character.isAlpha || character = '_'

def isNameCharacter (character : Char) : Bool := character.isAlphanum || character = '_'

def isSeparator (character : Char) : Bool :=
  character = ' ' || character = '\t' || character = ',' || character = '\uFEFF' ||
  character = '\n' || character = '\r'

/-- The input from its next token on. A comment runs to the end of its line. -/
def skipSeparators : (inComment : Bool) → List Char → List Char
  | _, [] => []
  | true, character :: rest =>
    skipSeparators (character ≠ '\n' && character ≠ '\r') rest
  | false, character :: rest =>
    if character = '#' then skipSeparators true rest
    else if isSeparator character then skipSeparators false rest
    else character :: rest

theorem length_skipSeparators_le (inComment : Bool) (input : List Char) :
    (skipSeparators inComment input).length ≤ input.length := by
  fun_induction skipSeparators inComment input with
  | case1 => simp
  | case2 character rest ih => exact Nat.le_succ_of_le ih
  | case3 rest ih => exact Nat.le_succ_of_le ih
  | case4 character rest _ _ ih => exact Nat.le_succ_of_le ih
  | case5 => exact Nat.le_refl _

def readDigits (input : List Char) : Except Fault (List Char × Rest input) :=
  match input with
  | [] => .error (.expectedDigit none)
  | digit :: rest =>
    if digit.isDigit then
      .ok (digit :: rest.takeWhile Char.isDigit, .dropWhile Char.isDigit digit rest)
    else .error (.expectedDigit (some digit))

/-- The whole part of a number. Nothing but a fraction or an exponent follows a zero. -/
def readWhole (input : List Char) : Except Fault (List Char × Rest input) :=
  match input with
  | '0' :: digit :: rest =>
    if digit.isDigit then .error (.digitAfterZero digit)
    else .ok (['0'], .tail '0' (digit :: rest))
  | ['0'] => .ok (['0'], .tail '0' [])
  | input => readDigits input

def readSignedWhole (input : List Char) : Except Fault (List Char × Rest input) :=
  match input with
  | '-' :: rest => do
    let (whole, behind) ← readWhole rest
    return ('-' :: whole, behind.behind)
  | input => readWhole input

abbrev Part (input : List Char) := List Char × Remainder input

def readFraction (input : List Char) : Except Fault (Part input) :=
  match input with
  | '.' :: rest => do
    let (digits, behind) ← readDigits rest
    return ('.' :: digits, behind.behind.weaken)
  | input => .ok ([], .all input)

def readExponent (input : List Char) : Except Fault (Part input) :=
  match input with
  | mark :: rest =>
    if mark = 'e' || mark = 'E' then
      match rest with
      | sign :: unsigned =>
        if sign = '+' || sign = '-' then do
          let (digits, behind) ← readDigits unsigned
          return (mark :: sign :: digits, behind.behind.behind.weaken)
        else do
          let (digits, behind) ← readDigits (sign :: unsigned)
          return (mark :: digits, behind.behind.weaken)
      | [] => .error (.expectedDigit none)
    else .ok ([], .all (mark :: rest))
  | [] => .ok ([], .all [])

def joinsNumber (character : Char) : Bool := character = '.' || isNameStart character

/-- The number in front of an input. Neither a point nor a name may follow it directly. -/
def readNumber (input : List Char) : Except Fault (Token × Rest input) := do
  let (whole, behindWhole) ← readSignedWhole input
  let (fraction, behindFraction) ← readFraction behindWhole.1
  let (exponent, behindExponent) ← readExponent behindFraction.1
  match behindExponent.1.head?.filter joinsNumber with
  | some next => .error (.expectedDigit (some next))
  | none =>
    let numeral := String.ofList (whole ++ fraction ++ exponent)
    let token := if fraction = [] && exponent = [] then .integer numeral else .real numeral
    return (token, behindWhole.andMaybe (behindFraction.andMaybe behindExponent))

def shortEscape? (character : Char) : Option Char :=
  match character with
  | '"' => some '"'
  | '\\' => some '\\'
  | '/' => some '/'
  | 'b' => some '\x08'
  | 'f' => some '\x0c'
  | 'n' => some '\n'
  | 'r' => some '\r'
  | 't' => some '\t'
  | _ => none

/-- The code point of an escape in braces, of which `size` characters were read, and what follows.
An escape has at most twelve characters, at least one digit, and stands for a character. -/
def readBraced (escape : List Char) (size code : Nat) : (input : List Char) →
    Except Fault (Nat × Rest input)
  | [] => .error (.badUnicodeEscape (String.ofList (escape.take size)))
  | character :: rest =>
    if 12 ≤ size then .error (.badUnicodeEscape (String.ofList (escape.take size)))
    else
      let fault := Fault.badUnicodeEscape (String.ofList (escape.take (size + 1)))
      if character = '}' then
        if 4 ≤ size && isScalarValue code then .ok (code, .tail character rest)
        else .error fault
      else
        match hexDigit? character with
        | none => .error fault
        | some digit => do
          let (code, behind) ← readBraced escape (size + 1) (code * 16 + digit) rest
          return (code, behind.behind)

def readHexValue? (input : List Char) : Option (Nat × Rest input) :=
  match input with
  | first :: second :: third :: fourth :: rest =>
    match hexValue? first second third fourth with
    | some code => some (code, (Rest.tail fourth rest).behind.behind.behind)
    | none => none
  | _ => none

def readLowSurrogate? (input : List Char) : Option (Nat × Rest input) :=
  match input with
  | '\\' :: 'u' :: digits =>
    match readHexValue? digits with
    | some (code, rest) => if isLowSurrogate code then some (code, rest.behind.behind) else none
    | none => none
  | _ => none

def readEscape (input : List Char) : Except Fault (Char × Rest input) :=
  match input with
  | '\\' :: 'u' :: '{' :: rest => do
    let (code, behind) ← readBraced input 3 0 rest
    return (Char.ofNat code, behind.behind.behind.behind)
  | '\\' :: 'u' :: digits =>
    let fault := Fault.badUnicodeEscape (String.ofList (('\\' :: 'u' :: digits).take 6))
    match readHexValue? digits with
    | none => .error fault
    | some (code, rest) =>
      if isScalarValue code then .ok (Char.ofNat code, rest.behind.behind)
      else if isHighSurrogate code then
        match readLowSurrogate? rest.1 with
        | some (low, behind) =>
          .ok (Char.ofNat (joinSurrogates code low), (rest.andThen behind).behind.behind)
        | none => .error fault
      else .error fault
  | first :: escape :: rest =>
    match shortEscape? escape with
    | some character => .ok (character, (Rest.tail escape rest).behind)
    | none => .error (.badEscape (String.ofList [first, escape]))
  | _ => .error (.badEscape (String.ofList input))

/-- The rest of a text up to its closing quote, which stands on the same line. -/
def readText (input : List Char) : Except Fault (List Char × Rest input) :=
  match input with
  | [] => .error .unterminatedText
  | character :: rest =>
    if character = '"' then .ok ([], .tail character rest)
    else if character = '\n' || character = '\r' then .error .unterminatedText
    else if character = '\\' then
      match readEscape (character :: rest) with
      | .error fault => .error fault
      | .ok (escaped, behind) =>
        match readText behind.1 with
        | .error fault => .error fault
        | .ok (following, rest) => .ok (escaped :: following, behind.andThen rest)
    else
      match readText rest with
      | .error fault => .error fault
      | .ok (following, behind) => .ok (character :: following, behind.behind)
termination_by input.length
decreasing_by
  · exact behind.2
  · exact Nat.lt_succ_self _

def consLine (character : Char) : List (List Char) → List (List Char)
  | [] => [[character]]
  | line :: others => (character :: line) :: others

/-- The lines of a text block up to its three closing quotes. Three quotes behind a backslash belong
to the text. -/
def readBlockText : (input : List Char) → Except Fault (List (List Char) × Rest input)
  | [] => .error .unterminatedText
  | '"' :: '"' :: '"' :: rest => .ok ([[]], (Rest.tail '"' rest).behind.behind)
  | '\\' :: '"' :: '"' :: '"' :: rest => do
    let (lines, behind) ← readBlockText rest
    return (consLine '"' (consLine '"' (consLine '"' lines)),
      behind.behind.behind.behind.behind)
  | '\r' :: '\n' :: rest => do
    let (lines, behind) ← readBlockText rest
    return ([] :: lines, behind.behind.behind)
  | character :: rest => do
    let (lines, behind) ← readBlockText rest
    let lines := if character = '\n' || character = '\r' then [] :: lines
      else consLine character lines
    return (lines, behind.behind)

def readPoints (input : List Char) : Except Fault (Token × Rest input) :=
  match input with
  | '.' :: '.' :: '.' :: rest => .ok (.mark "...", (Rest.tail '.' rest).behind.behind)
  | '.' :: '.' :: _ => .error .twoPoints
  | '.' :: digit :: rest =>
    if digit.isDigit then
      .error (.missingWhole (String.ofList (digit :: rest.takeWhile Char.isDigit)))
    else .error (.unexpectedCharacter '.')
  | _ => .error (.unexpectedCharacter '.')

def readToken (input : List Char) : Except Fault (Token × Rest input) :=
  match input with
  | '"' :: '"' :: '"' :: rest => do
    let (lines, behind) ← readBlockText rest
    return (.blockText (joinLines (dedent lines)), behind.behind.behind.behind)
  | '"' :: rest => do
    let (characters, behind) ← readText rest
    return (.text (String.ofList characters), behind.behind)
  | '.' :: rest => readPoints ('.' :: rest)
  | '\'' :: _ => .error .singleQuote
  | character :: rest =>
    if "!$&():=@[]\x7b|\x7d".toList.contains character then
      .ok (.mark (String.singleton character), .tail character rest)
    else if character.isDigit || character = '-' then readNumber (character :: rest)
    else if isNameStart character then
      .ok (.name (String.ofList (character :: rest.takeWhile isNameCharacter)),
        .dropWhile isNameCharacter character rest)
    else .error (.unexpectedCharacter character)
  | [] => .error (.unexpected none)

def tokens (input : List Char) : List Token × Option Fault :=
  match _spaced : skipSeparators false input with
  | [] => ([], none)
  | character :: rest =>
    match readToken (character :: rest) with
    | .error fault => ([], some fault)
    | .ok (token, behind) =>
      let (following, ending) := tokens behind.1
      (token :: following, ending)
termination_by input.length
decreasing_by
  have := length_skipSeparators_le false input
  rw [_spaced] at this
  exact Nat.lt_of_lt_of_le behind.2 this

end ZodValidators.Sdl
