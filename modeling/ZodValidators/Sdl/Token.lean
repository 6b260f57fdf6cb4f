/-!
# Tokens of the schema language

The tokens, and what can be wrong with a document that is made of them.
-/

set_option autoImplicit false

namespace ZodValidators.Sdl

inductive Token where
  /-- One of the marks `! $ & ( ) ... : = @ [ ] { | }`. -/
  | mark (mark : String)
  | name (name : String)
  | integer (numeral : String)
  | real (numeral : String)
  | text (text : String)
  | blockText (text : String)
deriving DecidableEq, Repr

def Token.describe : Token → String
  | .mark content => "'" ++ content ++ "'"
  | .name content => "Name '" ++ content ++ "'"
  | .integer numeral => "Int '" ++ numeral ++ "'"
  | .real numeral => "Float '" ++ numeral ++ "'"
  | .text content => "String '" ++ content ++ "'"
  | .blockText content => "BlockString '" ++ content ++ "'"

def describe : Option Token → String
  | some token => token.describe
  | none => "<EOF>"

/-! ## Faults -/

/-- The first thing in a document that does not fit the grammar. The end of the document is a
missing character or token. -/
inductive Fault where
  | unexpectedCharacter (character : Char)
  | singleQuote
  | twoPoints
  | missingWhole (digits : String)
  | digitAfterZero (found : Char)
  | expectedDigit (found : Option Char)
  | unterminatedText
  | badEscape (escape : String)
  | badUnicodeEscape (escape : String)
  | expected (what : String) (found : Option Token)
  | unexpected (found : Option Token)
  | unexpectedDescription
  | describedSelection
  | reservedEnumValue (found : Token)
  | variableInConstant (name : String)
deriving DecidableEq, Repr

def describeCharacter : Option Char → String
  | none => "<EOF>"
  | some '"' => "'\"'"
  | some character =>
    if 0x20 ≤ character.toNat ∧ character.toNat ≤ 0x7E then "'" ++ character.toString ++ "'"
    else
      let digits := (Nat.toDigits 16 character.toNat).map Char.toUpper
      "U+" ++ String.ofList (List.replicate (4 - digits.length) '0' ++ digits)

def Fault.text : Fault → String
  | .unexpectedCharacter character =>
    "Unexpected character: " ++ describeCharacter (some character) ++ "."
  | .singleQuote =>
    "Unexpected single quote character ('), did you mean to use a double quote (\")?"
  | .twoPoints => "Unexpected '..', did you mean '...'?"
  | .missingWhole digits =>
    "Invalid number, expected digit before '.', did you mean '0." ++ digits ++ "'?"
  | .digitAfterZero found =>
    "Invalid number, unexpected digit after 0: " ++ describeCharacter (some found) ++ "."
  | .expectedDigit found =>
    "Invalid number, expected digit but got: " ++ describeCharacter found ++ "."
  | .unterminatedText => "Unterminated string."
  | .badEscape escape => "Invalid character escape sequence: '" ++ escape ++ "'."
  | .badUnicodeEscape escape => "Invalid Unicode escape sequence: '" ++ escape ++ "'."
  | .expected what found => "Expected " ++ what ++ ", found " ++ describe found ++ "."
  | .unexpected found => "Unexpected " ++ describe found ++ "."
  | .unexpectedDescription =>
    "Unexpected description, only GraphQL definitions support descriptions."
  | .describedSelection =>
    "Unexpected description, descriptions are not supported on shorthand queries."
  | .reservedEnumValue found =>
    found.describe ++ " is reserved and cannot be used for an enum value."
  | .variableInConstant name => "Unexpected variable '$" ++ name ++ "' in constant value."

def Fault.message (fault : Fault) : String := "Syntax Error: " ++ fault.text

end ZodValidators.Sdl
