import ZodValidators.Decimal.Shortest
import ZodValidators.Text.Quoted

/-!
# Constant values

The values that a directive argument may have, and their text. A text is inserted as it is; inside
a list or an object it is quoted. Empty values, zero and false insert nothing.
-/

set_option autoImplicit false

namespace ZodValidators

open ZodValidators.Text ZodValidators.Decimal

/-- A constant value. The keys of an object are distinct when it was built with `insertEntry`. -/
inductive Constant where
  | null
  | boolean (value : Bool)
  | integer (value : Int)
  | real (value : Binary64)
  | text (value : Text)
  | list (items : List Constant)
  | object (entries : List (Text × Constant))
deriving Repr

namespace Constant

/-- The entries with a value under a key: in the place of the key's entry, or at the end. -/
def insertEntry (key : Text) (value : Constant) :
    List (Text × Constant) → List (Text × Constant)
  | [] => [(key, value)]
  | (other, old) :: rest =>
    if other = key then (other, value) :: rest else (other, old) :: insertEntry key value rest

mutual

def nestedText : Constant → String
  | .null => "None"
  | .boolean value => if value then "True" else "False"
  | .integer value => toString value
  | .real value => value.text
  | .text value => quoted value
  | .list items => "[" ++ ", ".intercalate (itemTexts items) ++ "]"
  | .object entries => "\x7b" ++ ", ".intercalate (entryTexts entries) ++ "\x7d"

def itemTexts : List Constant → List String
  | [] => []
  | item :: rest => nestedText item :: itemTexts rest

def entryTexts : List (Text × Constant) → List String
  | [] => []
  | (key, value) :: rest => (quoted key ++ ": " ++ nestedText value) :: entryTexts rest

end

def textOf : Constant → Text
  | .text value => value
  | value => value.nestedText

/-- Null, false, zero, and the empty text, list and object. -/
def isEmpty : Constant → Bool
  | .null => true
  | .boolean value => !value
  | .integer value => value = 0
  | .real value => value.isZero
  | .text value => value.isEmpty
  | .list items => items.isEmpty
  | .object entries => entries.isEmpty

def inserted (value : Constant) : Text :=
  if value.isEmpty then [] else value.textOf

theorem inserted_text (value : Text) : (Constant.text value).inserted = value := by
  cases value <;> simp [inserted, isEmpty, textOf]

theorem inserted_null : Constant.null.inserted = [] := rfl

end Constant

end ZodValidators
