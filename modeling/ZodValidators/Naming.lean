import ZodValidators.Text.Case

/-!
# Pascal case

`pascalCase` turns a camel case or snake case name into pascal case: word boundaries are marked
with underscores, the words between underscores are capitalized and put together.
-/

set_option autoImplicit false

namespace ZodValidators.Naming

/-- Where the marking of capitalized words stands: between words, at the capital letter of a marked
word, or after it. -/
inductive Place where
  | outside
  | atCapital
  | inside
deriving DecidableEq, Repr

def isCapital (codePoint : CodePoint) : Bool := codePoint.passes Char.isUpper

def isSmall (codePoint : CodePoint) : Bool := codePoint.passes Char.isLower

def isDigit (codePoint : CodePoint) : Bool := codePoint.passes Char.isDigit

def startsWord : Text → Bool
  | capital :: small :: _ => isCapital capital && isSmall small
  | _ => false

def underscore : CodePoint := .char '_'

/-- Marks the start of every capitalized word that something other than a line feed stands before.
A marked word takes all small letters that follow, and the next word is looked for only after the
first code point behind them. -/
def markWords : Place → Text → Text
  | _, [] => []
  | .atCapital, capital :: rest => capital :: markWords .inside rest
  | place, first :: rest =>
    if place = .inside && isSmall first then first :: markWords .inside rest
    else if first ≠ .char '\n' && startsWord rest then
      first :: underscore :: markWords .atCapital rest
    else first :: markWords .outside rest

/-- Marks every capital letter that follows a small letter or a digit. -/
def markCapitals : Text → Text
  | [] => []
  | [last] => [last]
  | first :: second :: rest =>
    if (isSmall first || isDigit first) && isCapital second then
      first :: underscore :: markCapitals (second :: rest)
    else first :: markCapitals (second :: rest)

/-- The parts between underscores; there is always one. -/
def words : Text → List Text
  | [] => [[]]
  | first :: rest =>
    if first = underscore then [] :: words rest
    else match words rest with
      | [] => [[first]]
      | word :: others => (first :: word) :: others

def pascalCase (name : Text) : Text :=
  (words (Text.lower (markCapitals (markWords .outside name)))).flatMap Text.capitalize

end ZodValidators.Naming
