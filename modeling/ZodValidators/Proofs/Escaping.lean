import ZodValidators.ModuleFile
import ZodValidators.Proofs.StandardModule

/-!
# Escaping

A template whose name ends like that of a markup file escapes the values that it prints. The
template of a module has no such name, so names, bodies and types of declarations stand in the
module as they are, whatever markup or template syntax is in them.
-/

set_option autoImplicit false

namespace ZodValidators

namespace Template

/-! ## Which templates escape -/

def markupEndings : List Text := [".html", ".htm", ".xml"]

def escapesValues (name : String) : Bool :=
  markupEndings.any fun ending => ending.isSuffixOf (Text.lower name)

def escapeCodePoint : CodePoint → Text
  | .char '&' => "&amp;"
  | .char '<' => "&lt;"
  | .char '>' => "&gt;"
  | .char '"' => "&#34;"
  | .char '\'' => "&#39;"
  | codePoint => [codePoint]

def escape (text : Text) : Text := text.flatMap escapeCodePoint

/-- What a template with this name does to the text of a value before it prints it. -/
def finishing (name : String) : Text → Text := if escapesValues name then escape else id

/-! ## Evaluating with a last step for every output -/

mutual

/-- The text of a part of a template if the text of every value takes a last step. What the template
says itself does not take it. -/
def Node.finish (last : Text → Text) (filters : Filters) (scope : Scope) : Node → Except Fault Text
  | .text content => .ok content
  | .output value => do
    return last (← value.evaluate filters scope).printed
  | .conditional condition body => do
    if (← condition.evaluate filters scope).holds then finishAll last filters scope body
    else .ok []
  | .loop item items body => do
    let elements ← (← items.evaluate filters scope).elements
    let texts ← elements.mapM fun element => finishAll last filters ((item, element) :: scope) body
    return texts.flatten

def finishAll (last : Text → Text) (filters : Filters) (scope : Scope) :
    List Node → Except Fault Text
  | [] => .ok []
  | node :: rest => do
    let text ← node.finish last filters scope
    return text ++ (← finishAll last filters scope rest)

end

def evaluateTemplate (name : String) (filters : Filters) (scope : Scope) (template : List Char) :
    Except Fault Text := do
  finishAll (finishing name) filters scope (← parse template)

mutual

theorem Node.finish_id (filters : Filters) (scope : Scope) (node : Node) :
    node.finish id filters scope = node.evaluate filters scope := by
  cases node with
  | text content => rfl
  | output value => rfl
  | conditional condition body =>
      simp only [Node.finish, Node.evaluate, finishAll_id _ _ body]
  | loop item items body =>
      simp only [Node.finish, Node.evaluate, finishAll_id _ _ body]

/-- A last step that changes nothing can be left out. -/
theorem finishAll_id (filters : Filters) (scope : Scope) (nodes : List Node) :
    finishAll id filters scope nodes = evaluateAll filters scope nodes := by
  cases nodes with
  | nil => rfl
  | cons node rest =>
      simp only [finishAll, evaluateAll, node.finish_id, finishAll_id _ _ rest]

end

theorem evaluateTemplate_of_not_escapesValues {name : String} (plain : escapesValues name = false)
    (filters : Filters) (scope : Scope) (template : List Char) :
    evaluateTemplate name filters scope template =
      (parse template).bind (evaluateAll filters scope) := by
  have unchanged : finishing name = id := by
    rw [finishing, plain]
    rfl
  simp only [evaluateTemplate, unchanged, funext (finishAll_id filters scope)]
  rfl

example : (evaluateTemplate "Page.HTML" [] [("title", .text "a < b")]
    "<p>\x7b\x7b title \x7d\x7d</p>".toList).toOption = some "<p>a &lt; b</p>" := by
  decide +kernel

end Template

/-! ## The template of a module -/

namespace ModuleText

open Template

theorem escapesValues_templateName : escapesValues ModuleFile.templateName = false := by
  decide +kernel

/-- Rendering a module escapes what a template with its name escapes. -/
theorem render_eq_map_evaluateTemplate (options : Options) (headers : List Text)
    (template : List Char) (sections : List Section) :
    render options headers template sections =
      (evaluateTemplate ModuleFile.templateName filters (scope options sections) template).map
        (addHeaders headers) := by
  rw [evaluateTemplate_of_not_escapesValues escapesValues_templateName]
  cases parsed : Template.parse template with
  | error fault =>
      rw [render, parsed]
      rfl
  | ok nodes =>
      change _ = (evaluateAll filters (scope options sections) nodes).map (addHeaders headers)
      cases evaluated : evaluateAll filters (scope options sections) nodes with
      | error fault => simp only [render, parsed, evaluated, bind, Except.bind, Except.map]
      | ok content => exact render_eq_ok parsed evaluated

/-- The standard template prints every value as it is, in its place. Rendering evaluates a template
as its name asks for, and then puts the headers in front. -/
theorem evaluateTemplate_standardTemplate (options : Options) (sections : List Section) :
    evaluateTemplate ModuleFile.templateName filters (scope options sections) standardTemplate =
        .ok (standardText options sections) ∧
      ∀ headers template,
        render options headers template sections =
          (evaluateTemplate ModuleFile.templateName filters (scope options sections) template).map
            (addHeaders headers) := by
  constructor
  · rw [evaluateTemplate_of_not_escapesValues escapesValues_templateName, parse_standardTemplate]
    exact evaluateAll_standardNodes options sections
  · intro headers template
    exact render_eq_map_evaluateTemplate options headers template sections

end ModuleText

end ZodValidators
