/-!
# Schema documents

A document is a list of definitions. What no validator is made from is kept as `other`.
-/

set_option autoImplicit false

namespace ZodValidators.Sdl

/-- A type: a named type or a list, which null may belong to or not. -/
inductive TypeExpr where
  | named (name : String) (nonNull : Bool)
  | list (item : TypeExpr) (nonNull : Bool)
deriving DecidableEq, Repr

namespace TypeExpr

def innermost : TypeExpr → String
  | .named name _ => name
  | .list item _ => item.innermost

def isNonNull : TypeExpr → Bool
  | .named _ nonNull => nonNull
  | .list _ nonNull => nonNull

def isList : TypeExpr → Bool
  | .named _ _ => false
  | .list _ _ => true

end TypeExpr

/-- A value without variables. Numbers are kept as they are written. -/
inductive Value where
  | null
  | boolean (value : Bool)
  | integer (numeral : String)
  | real (numeral : String)
  | text (text : String)
  | enumeration (name : String)
  | list (items : List Value)
  | object (fields : List (String × Value))
deriving Repr

structure Directive where
  name : String
  arguments : List (String × Value)
deriving Repr

structure InputValue where
  name : String
  type : TypeExpr
  default : Option Value := none
  directives : List Directive := []
  description : Option String := none
deriving Repr

structure ObjectField where
  name : String
  arguments : List InputValue := []
  description : Option String := none
deriving Repr

/-- A definition of a document. Object and input types are defined and extended alike, except that
an extension has no description. -/
inductive Definition where
  | scalar (name : String)
  | enumeration (name : String) (values : List String) (description : Option String)
  | object (name : String) (fields : List ObjectField)
  | input (name : String) (fields : List InputValue) (description : Option String)
  | other
deriving Repr

abbrev Document := List Definition

end ZodValidators.Sdl
