import ZodValidators.Text.Quoted

/-!
# Templates

A template is literal text with outputs, conditional parts and loops. It is evaluated in a scope of
named values. A name without a value is undefined: it prints nothing, counts as false and has no
items.
-/

set_option autoImplicit false

namespace ZodValidators.Template

open ZodValidators.Text

inductive Expression where
  | literal (text : Text)
  | name (name : String)
  | member (value : Expression) (name : String)
  | filtered (value : Expression) (filter : String)
deriving DecidableEq, Repr

inductive Node where
  | text (text : String)
  | output (value : Expression)
  | conditional (condition : Expression) (body : List Node)
  | loop (item : String) (items : Expression) (body : List Node)
deriving Repr

inductive Fault where
  | unclosed
  | unknownTag (content : String)
  | unexpectedEnd (tag : String)
  | missingEnd (tag : String)
  | unknownFilter (name : String)
  | undefinedName (name : Text)
  | notIterable (type : String)
deriving DecidableEq, Repr

def Fault.message : Fault → String
  | .unknownFilter name => "No filter named " ++ quoted name ++ "."
  | .undefinedName name => quoted name ++ " is undefined"
  | .notIterable type => quoted type ++ " object is not iterable"
  | _ => "The template is not well formed"

end ZodValidators.Template
