import ZodValidators.Decimal.Numeral
import ZodValidators.Json.Basic
import ZodValidators.Rest
import ZodValidators.Table
import ZodValidators.Text.Escape

/-!
# Reading JSON

`parse` reads a JSON text, in which the numbers `NaN`, `Infinity` and `-Infinity` are allowed as
well. Of several members with one name the last one counts. Every reader returns the characters
behind what it read, which are fewer than before.
-/

set_option autoImplicit false

namespace ZodValidators.Json

open ZodValidators.Decimal ZodValidators.Text

def isSpace (character : Char) : Bool :=
  character = ' ' || character = '\t' || character = '\n' || character = '\r'

def skipSpace (input : List Char) : Remainder input :=
  ⟨input.dropWhile isSpace, (List.dropWhile_sublist isSpace).length_le⟩

def mark? (expected : Char) (input : List Char) : Option (Rest input) :=
  match input with
  | [] => none
  | first :: rest => if first = expected then some (.tail first rest) else none

def shortEscape? (character : Char) : Option Char :=
  match character with
  | '"' => some '"'
  | '\\' => some '\\'
  | '/' => some '/'
  | 'b' => some '\x08'
  | 'f' => some '\x0c'
  | 'n' => some '\n'
  | 'r' => some '\r'
  | 't' => some '\t'
  | _ => none

/-- The second half of a surrogate pair that is escaped in front of an input. It is looked for only
where more text follows the escape. -/
def lowSurrogate? (input : List Char) : Except Stop (Option (Nat × Rest input)) :=
  match input with
  | '\\' :: 'u' :: first :: second :: third :: fourth :: next :: rest =>
    match hexValue? first second third fourth with
    | none => .error ⟨.badUnicodeEscape, rest.length + 6⟩
    | some low =>
      if isLowSurrogate low then
        .ok (some (low, (Rest.tail fourth (next :: rest)).behind.behind.behind.behind.behind))
      else .ok none
  | _ => .ok none

/-- The next code point of a text, or nothing at its closing quote. The opening quote had `opening`
characters left from it on. -/
def readCodePoint (opening : Nat) (input : List Char) :
    Except Stop (Option CodePoint × Rest input) :=
  match input with
  | [] => .error ⟨.unterminatedText, opening⟩
  | '"' :: rest => .ok (none, .tail '"' rest)
  | ['\\'] => .error ⟨.unterminatedText, opening⟩
  | '\\' :: 'u' :: first :: second :: third :: fourth :: next :: rest =>
    match hexValue? first second third fourth with
    | none => .error ⟨.badUnicodeEscape, rest.length + 6⟩
    | some unit =>
      let escape := (Rest.tail fourth (next :: rest)).behind.behind.behind.behind.behind
      if isHighSurrogate unit then
        match lowSurrogate? (next :: rest) with
        | .error stop => .error stop
        | .ok none => .ok (some (.ofCode unit), escape)
        | .ok (some (low, behind)) =>
          .ok (some (.ofCode (joinSurrogates unit low)), escape.andThen behind)
      else .ok (some (.ofCode unit), escape)
  | '\\' :: 'u' :: rest => .error ⟨.badUnicodeEscape, rest.length + 1⟩
  | '\\' :: escape :: rest =>
    match shortEscape? escape with
    | none => .error ⟨.badEscape, rest.length + 2⟩
    | some character => .ok (some (.char character), (Rest.tail escape rest).behind)
  | character :: rest =>
    if character.toNat < 0x20 then .error ⟨.controlCharacter, rest.length + 1⟩
    else .ok (some (.char character), .tail character rest)

def readText (opening : Nat) (input : List Char) : Except Stop (Text × Rest input) :=
  match readCodePoint opening input with
  | .error stop => .error stop
  | .ok (none, rest) => .ok ([], rest)
  | .ok (some codePoint, behind) =>
    match readText opening behind.1 with
    | .error stop => .error stop
    | .ok (following, rest) => .ok (codePoint :: following, behind.andThen rest)
termination_by input.length
decreasing_by exact behind.2

/-- The value of a number. One with a fraction or an exponent is a double. A whole one is kept with
all its digits, also where a reader that takes at most 4300 of them reports a fault. -/
def numberValue (numeral : Numeral) : Value :=
  if numeral.isWhole then .integer numeral.integer else .real numeral.real

def literals : List (List Char × Value) :=
  [("null".toList, .null), ("true".toList, .boolean true), ("false".toList, .boolean false),
   ("NaN".toList, .real .notANumber), ("Infinity".toList, .real (.infinite false)),
   ("-Infinity".toList, .real (.infinite true))]

def literal? (input : List Char) : Option (Value × Rest input) :=
  (literals.find? fun literal => literal.1.isPrefixOf input).bind fun (name, value) =>
    if shorter : (input.drop name.length).length < input.length then
      some (value, ⟨input.drop name.length, shorter⟩)
    else none

def number? (input : List Char) : Option (Value × Rest input) :=
  match found : Numeral.read? input with
  | some (numeral, rest) => some (numberValue numeral, ⟨rest, Numeral.length_lt_of_read? found⟩)
  | none => none

def readName (input : List Char) : Except Stop (Text × Rest input) :=
  match input with
  | '"' :: characters =>
    match readText (characters.length + 1) characters with
    | .error stop => .error stop
    | .ok (name, behind) =>
      let spaced := skipSpace behind.1
      match mark? ':' spaced.1 with
      | none => .error ⟨.expectingColon, spaced.1.length⟩
      | some colon =>
        .ok (name, (behind.andThen (spaced.andThen (colon.andMaybe (skipSpace colon.1)))).behind)
  | input => .error ⟨.expectingName, input.length⟩

/-- What is left measures less, also where one more is added for readers that only pass on. -/
theorem odd_lt_odd {input : List Char} (rest : Rest input) :
    2 * rest.1.length + 1 < 2 * input.length + 1 :=
  Nat.succ_lt_succ (Nat.mul_lt_mul_of_pos_left rest.2 (by decide))

mutual

def readValue (input : List Char) : Except Stop (Value × Rest input) :=
  match input with
  | '"' :: characters =>
    match readText (characters.length + 1) characters with
    | .error stop => .error stop
    | .ok (content, rest) => .ok (.text content, rest.behind)
  | '[' :: inside =>
    match mark? ']' (skipSpace inside).1 with
    | some rest => .ok (.array [], ((skipSpace inside).andThen rest).behind)
    | none =>
      match readItems (skipSpace inside).1 with
      | .error stop => .error stop
      | .ok (items, rest) => .ok (.array items, ((skipSpace inside).andThen rest).behind)
  | '{' :: inside =>
    match mark? '}' (skipSpace inside).1 with
    | some rest => .ok (.object [], ((skipSpace inside).andThen rest).behind)
    | none =>
      match readMembers [] (skipSpace inside).1 with
      | .error stop => .error stop
      | .ok (members, rest) => .ok (.object members, ((skipSpace inside).andThen rest).behind)
  | input =>
    match literal? input, number? input with
    | some (value, rest), _ => .ok (value, rest)
    | none, some (value, rest) => .ok (value, rest)
    | none, none => .error ⟨.expectingValue, input.length⟩
termination_by 2 * input.length
decreasing_by
  all_goals
    have := (skipSpace inside).2
    simp only [List.length_cons]
    omega

def readItems (input : List Char) : Except Stop (List Value × Rest input) :=
  match readValue input with
  | .error stop => .error stop
  | .ok (value, behind) =>
    let spaced := skipSpace behind.1
    match mark? ']' spaced.1, mark? ',' spaced.1 with
    | some rest, _ => .ok ([value], behind.andThen (spaced.andThen rest))
    | none, some comma =>
      let next := behind.andThen (spaced.andThen (comma.andMaybe (skipSpace comma.1)))
      match readItems next.1 with
      | .error stop => .error stop
      | .ok (values, rest) => .ok (value :: values, next.andThen rest)
    | none, none => .error ⟨.expectingComma, spaced.1.length⟩
termination_by 2 * input.length + 1
decreasing_by
  · omega
  · exact odd_lt_odd _

def readMembers (before : List (Text × Value)) (input : List Char) :
    Except Stop (List (Text × Value) × Rest input) :=
  match readName input with
  | .error stop => .error stop
  | .ok (name, named) =>
    match readValue named.1 with
    | .error stop => .error stop
    | .ok (value, behind) =>
      let members := Table.put name value before
      let spaced := skipSpace behind.1
      match mark? '}' spaced.1, mark? ',' spaced.1 with
      | some rest, _ => .ok (members, named.andThen (behind.andThen (spaced.andThen rest)))
      | none, some comma =>
        let next := named.andThen
          (behind.andThen (spaced.andThen (comma.andMaybe (skipSpace comma.1))))
        match readMembers members next.1 with
        | .error stop => .error stop
        | .ok (members, rest) => .ok (members, next.andThen rest)
      | none, none => .error ⟨.expectingComma, spaced.1.length⟩
termination_by 2 * input.length + 1
decreasing_by
  · have := named.2
    omega
  · exact odd_lt_odd _

end

/-- The value of a JSON text, with white space around it and nothing else. -/
def readAll (text : List Char) : Except Stop Value :=
  match text with
  | '\uFEFF' :: _ => .error ⟨.byteOrderMark, text.length⟩
  | _ =>
    match readValue (skipSpace text).1 with
    | .error stop => .error stop
    | .ok (value, rest) =>
      match (skipSpace rest.1).1 with
      | [] => .ok value
      | behind => .error ⟨.extraData, behind.length⟩

def parse (text : List Char) : Except Fault Value :=
  (readAll text).mapError (Fault.ofStop text)

end ZodValidators.Json
