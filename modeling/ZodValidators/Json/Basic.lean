import ZodValidators.Decimal.Binary64
import ZodValidators.Text.Basic

/-!
# JSON values and faults

A fault in a JSON text has a cause and a position, which is reported as a line, a column and a number
of characters.
-/

set_option autoImplicit false

namespace ZodValidators.Json

inductive Value where
  | null
  | boolean (value : Bool)
  | integer (value : Int)
  | real (value : Decimal.Binary64)
  | text (value : Text)
  | array (items : List Value)
  | object (members : List (Text × Value))
deriving Repr

def member? (name : Text) : List (Text × Value) → Option Value
  | [] => none
  | (other, value) :: rest => if other = name then some value else member? name rest

/-! ## Faults -/

inductive Cause where
  | expectingValue
  | expectingName
  | expectingColon
  | expectingComma
  | extraData
  | unterminatedText
  | controlCharacter
  | badEscape
  | badUnicodeEscape
  | byteOrderMark
deriving DecidableEq, Repr

def Cause.message : Cause → String
  | .expectingValue => "Expecting value"
  | .expectingName => "Expecting property name enclosed in double quotes"
  | .expectingColon => "Expecting ':' delimiter"
  | .expectingComma => "Expecting ',' delimiter"
  | .extraData => "Extra data"
  | .unterminatedText => "Unterminated string starting at"
  | .controlCharacter => "Invalid control character at"
  | .badEscape => "Invalid \\escape"
  | .badUnicodeEscape => "Invalid \\uXXXX escape"
  | .byteOrderMark => "Unexpected UTF-8 BOM (decode using utf-8-sig)"

/-- A cause and how many characters are left from its position on. -/
structure Stop where
  cause : Cause
  left : Nat
deriving DecidableEq, Repr

/-- A cause and its position in the text. Lines and columns count from one, the offset from
zero. -/
structure Fault where
  cause : Cause
  line : Nat
  column : Nat
  offset : Nat
deriving DecidableEq, Repr

def Fault.ofStop (text : List Char) (stop : Stop) : Fault :=
  let before := text.take (text.length - stop.left)
  { cause := stop.cause
    line := before.count '\n' + 1
    column := (before.reverse.takeWhile (· ≠ '\n')).length + 1
    offset := before.length }

def Fault.message (fault : Fault) : String :=
  fault.cause.message ++ ": line " ++ toString fault.line ++ " column " ++ toString fault.column ++
    " (char " ++ toString fault.offset ++ ")"

end ZodValidators.Json
