import ZodValidators.Text.Escape

/-!
# Texts

A text is a sequence of code points. Nearly all of them are characters, but half of a surrogate pair
may stand alone in a text, because a JSON text can spell it; such a text has no encoding. What never
holds half of a pair, such as a path or a document that was decoded, is a string or a list of
characters; it becomes a text where it meets one.
-/

set_option autoImplicit false

namespace ZodValidators

/-- Half of a surrogate pair that stands alone. -/
structure Surrogate where
  code : Nat
  inRange : 0xD800 ≤ code ∧ code < 0xE000
deriving DecidableEq, Repr

inductive CodePoint where
  | char (character : Char)
  | surrogate (half : Surrogate)
deriving DecidableEq, Repr

namespace CodePoint

def code : CodePoint → Nat
  | .char character => character.toNat
  | .surrogate half => half.code

def ofCode (code : Nat) : CodePoint :=
  if inRange : 0xD800 ≤ code ∧ code < 0xE000 then .surrogate ⟨code, inRange⟩
  else .char (Char.ofNat code)

def passes (test : Char → Bool) : CodePoint → Bool
  | .char character => test character
  | .surrogate _ => false

def char? : CodePoint → Option Char
  | .char character => some character
  | .surrogate _ => none

end CodePoint

abbrev Text := List CodePoint

instance : LawfulBEq Text := inferInstanceAs (LawfulBEq (List CodePoint))

namespace Text

def ofChars (characters : List Char) : Text := characters.map .char

def ofString (content : String) : Text := ofChars content.toList

instance : Coe String Text := ⟨ofString⟩

/-- The characters of a text, unless half of a surrogate pair stands in it. -/
def chars? : Text → Option (List Char)
  | [] => some []
  | codePoint :: rest => do
    return (← codePoint.char?) :: (← chars? rest)

def string? (text : Text) : Option String := text.chars?.map String.ofList

def join (separator : Text) (texts : List Text) : Text := List.intercalate separator texts

def unitEscape (code : Nat) : List Char := '\\' :: 'u' :: hexadecimal 4 code

/-- A code point as a character, or as an escape if it is half of a surrogate pair. -/
def escapedCodePoint : CodePoint → List Char
  | .char character => [character]
  | .surrogate half => unitEscape half.code

def escaped (text : Text) : String := String.ofList (text.flatMap escapedCodePoint)

theorem ofString_injective {left right : String} (same : ofString left = ofString right) :
    left = right := by
  have characters : left.toList = right.toList :=
    List.map_inj_right (fun _ _ => CodePoint.char.inj) |>.mp same
  exact String.toList_injective characters

theorem ofString_inj {left right : String} : ofString left = ofString right ↔ left = right :=
  ⟨ofString_injective, congrArg ofString⟩

theorem mem_map_ofString {name : String} {names : List String} :
    ofString name ∈ names.map ofString ↔ name ∈ names := by
  constructor
  · intro member
    obtain ⟨other, present, same⟩ := List.mem_map.mp member
    exact ofString_injective same ▸ present
  · exact List.mem_map_of_mem

@[simp] theorem ofString_append (left right : String) :
    ofString (left ++ right) = ofString left ++ ofString right := by
  simp [ofString, ofChars]

end Text

end ZodValidators
