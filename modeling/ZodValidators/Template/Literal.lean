import ZodValidators.Rest
import ZodValidators.Text.Basic

/-!
# Literals of templates

A backslash in a literal starts an escape: a letter for a control character, or the number of a code
point in octal or hexadecimal digits. Before any other character it stands for itself. Escapes are
read after the characters beyond ASCII were escaped themselves, so a backslash in front of one of
them makes the escape visible.
-/

set_option autoImplicit false

namespace ZodValidators.Template

open ZodValidators.Text

def asciiForm (character : Char) : List Char :=
  if character.toNat < 0x80 then [character]
  else if character.toNat < 0x100 then '\\' :: 'x' :: hexadecimal 2 character.toNat
  else if character.toNat < 0x10000 then unitEscape character.toNat
  else '\\' :: 'U' :: hexadecimal 8 character.toNat

def hexNumber? (digits : List Char) : Option Nat :=
  digits.foldlM (fun number digit => (hexDigit? digit).map fun value => number * 16 + value) 0

def hexCodePoint? (digits : List Char) : Option CodePoint :=
  (hexNumber? digits).bind fun code => if code < 0x110000 then some (.ofCode code) else none

def isOctalDigit (character : Char) : Bool := '0' ≤ character && character ≤ '7'

def octalNumber (digits : List Char) : Nat :=
  digits.foldl (fun number digit => number * 8 + (digit.toNat - '0'.toNat)) 0

def letterEscape (letter : Char) : List Char :=
  match letter with
  | '\n' => []
  | '\\' => ['\\']
  | '\'' => ['\'']
  | '"' => ['"']
  | 'a' => ['\x07']
  | 'b' => ['\x08']
  | 't' => ['\t']
  | 'n' => ['\n']
  | 'v' => ['\x0b']
  | 'f' => ['\x0c']
  | 'r' => ['\r']
  | letter => ['\\', letter]

/-- What the escape stands for whose backslash is in front of an input. Hexadecimal escapes need all
of their digits, octal ones have up to three. -/
def readEscape? (input : List Char) : Option (Text × Rest input) :=
  match input with
  | [] => none
  | letter :: rest =>
    let numbered := fun count : Nat =>
      if rest.length < count then none
      else (hexCodePoint? (rest.take count)).map fun codePoint =>
        ([codePoint], (⟨rest.drop count, Nat.lt_succ_of_le (by simp)⟩ : Rest (letter :: rest)))
    if letter = 'x' then numbered 2
    else if letter = 'u' then numbered 4
    else if letter = 'U' then numbered 8
    else if letter = 'N' then none
    else if isOctalDigit letter then
      let following := (rest.take 2).takeWhile isOctalDigit
      some ([.ofCode (octalNumber (letter :: following))],
        ⟨rest.drop following.length, Nat.lt_succ_of_le (by simp)⟩)
    else some (ofChars (letterEscape letter), .tail letter rest)

def unescape? (characters : List Char) : Option Text :=
  match characters with
  | [] => some []
  | '\\' :: input =>
    match readEscape? input with
    | none => none
    | some (text, rest) => (unescape? rest.1).map (text ++ ·)
  | character :: rest => (unescape? rest).map (.char character :: ·)
termination_by characters.length
decreasing_by
  · exact Nat.lt_succ_of_lt rest.2
  · exact Nat.lt_succ_self _

def literalText? (characters : List Char) : Option Text :=
  unescape? (characters.flatMap asciiForm)

end ZodValidators.Template
