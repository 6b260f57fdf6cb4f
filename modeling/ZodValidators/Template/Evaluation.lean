import ZodValidators.Template.Basic

/-!
# Evaluating templates

Values are inserted as they are: nothing in them is escaped or read as a template again.
-/

set_option autoImplicit false

namespace ZodValidators.Template

open ZodValidators.Text

inductive Value where
  | undefined
  | absent
  | text (text : Text)
  | items (items : List Value)
  | record (type : String) (members : List (String × Value))
deriving Repr

/-- Values by name; the innermost binding of a name comes first. -/
abbrev Scope := List (String × Value)

def Scope.value (scope : Scope) (name : String) : Value := (scope.lookup name).getD .undefined

abbrev Filters := List (String × (Text → Text))

namespace Value

def holds : Value → Bool
  | .undefined => false
  | .absent => false
  | .text content => !content.isEmpty
  | .items elements => !elements.isEmpty
  | .record _ _ => true

mutual

def nestedText : Value → String
  | .undefined => "Undefined"
  | .absent => "None"
  | .text content => quoted content
  | .items elements => "[" ++ ", ".intercalate (itemTexts elements) ++ "]"
  | .record type members => type ++ "(" ++ ", ".intercalate (memberTexts members) ++ ")"

def itemTexts : List Value → List String
  | [] => []
  | item :: rest => item.nestedText :: itemTexts rest

def memberTexts : List (String × Value) → List String
  | [] => []
  | (name, value) :: rest => (name ++ "=" ++ value.nestedText) :: memberTexts rest

end

/-- What an output prints. A text stands alone as it is; inside a list or a record it is quoted. -/
def printed : Value → Text
  | .undefined => []
  | .text content => content
  | value => value.nestedText

def typeName : Value → String
  | .record type _ => type
  | _ => "NoneType"

/-- A member of the value; `name` is what the value was called. -/
def member (value : Value) (name : Text) (member : String) : Except Fault Value :=
  match value with
  | .undefined => .error (.undefinedName name)
  | .record _ members => .ok ((members.lookup member).getD .undefined)
  | _ => .ok .undefined

def elements : Value → Except Fault (List Value)
  | .undefined => .ok []
  | .items elements => .ok elements
  | .text content => .ok (content.map fun codePoint => .text [codePoint])
  | value => .error (.notIterable value.typeName)

end Value

/-- What an expression is called where its value is undefined. -/
def Expression.label : Expression → Text
  | .literal content => content
  | .name identifier => identifier
  | .member _ identifier => identifier
  | .filtered _ filter => filter

def Expression.evaluate (filters : Filters) (scope : Scope) : Expression → Except Fault Value
  | .literal content => .ok (.text content)
  | .name identifier => .ok (scope.value identifier)
  | .member owner identifier => do
    (← owner.evaluate filters scope).member owner.label identifier
  | .filtered argument filter => do
    let argument ← argument.evaluate filters scope
    match filters.lookup filter with
    | some convert => .ok (.text (convert argument.printed))
    | none => .error (.unknownFilter filter)

mutual

def Node.evaluate (filters : Filters) (scope : Scope) : Node → Except Fault Text
  | .text content => .ok content
  | .output value => do
    return (← value.evaluate filters scope).printed
  | .conditional condition body => do
    if (← condition.evaluate filters scope).holds then evaluateAll filters scope body else .ok []
  | .loop item items body => do
    let elements ← (← items.evaluate filters scope).elements
    let texts ← elements.mapM fun element => evaluateAll filters ((item, element) :: scope) body
    return texts.flatten

def evaluateAll (filters : Filters) (scope : Scope) : List Node → Except Fault Text
  | [] => .ok []
  | node :: rest => do
    let text ← node.evaluate filters scope
    return text ++ (← evaluateAll filters scope rest)

end

end ZodValidators.Template
