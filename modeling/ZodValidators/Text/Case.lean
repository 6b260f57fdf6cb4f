import ZodValidators.Text.Basic
import ZodValidators.Text.CaseTable

/-!
# Lower case and capitalization

Full case conversion: a character may become several, and the capital sigma becomes a final sigma
at the end of a word. Capitalizing puts the first character into title case and the rest into
lower case. ASCII characters are converted without the tables, and half of a surrogate pair has no
case.
-/

set_option autoImplicit false

namespace ZodValidators.Text

def lowerCharacter (character : Char) : List Char :=
  if character.toNat < 0x80 then [character.toLower]
  else if character = 'İ' then ['i', '\u0307']
  else [lowerRuns.convert character]

def titleCharacter (character : Char) : List Char :=
  if character.toNat < 0x80 then [character.toUpper]
  else match titleExpansions.lookup character.toNat with
    | some expansion => expansion.map Char.ofNat
    | none => [titleRuns.convert character]

def convertChar (convert : Char → List Char) : CodePoint → Text
  | .char character => ofChars (convert character)
  | half => [half]

/-- The first code point that is not skipped has case. -/
def startsCased (text : Text) : Bool :=
  match text.find? fun codePoint => !caseIgnorableRanges.has codePoint.code with
  | some codePoint => casedRanges.has codePoint.code
  | none => false

/-- The lower case of the text that follows `before`, which is given nearest first. A capital sigma
is final when a character with case stands before it and none after it. -/
def lowerAfter : (before text : Text) → Text
  | _, [] => []
  | before, .char 'Σ' :: rest =>
      .char (if startsCased before && !startsCased rest then 'ς' else 'σ') ::
        lowerAfter (.char 'Σ' :: before) rest
  | before, codePoint :: rest =>
      convertChar lowerCharacter codePoint ++ lowerAfter (codePoint :: before) rest

def lower (text : Text) : Text := lowerAfter [] text

def capitalize : Text → Text
  | [] => []
  | first :: rest => convertChar titleCharacter first ++ lowerAfter [first] rest

end ZodValidators.Text
