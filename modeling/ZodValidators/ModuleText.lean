import ZodValidators.Declaration
import ZodValidators.NameFilter
import ZodValidators.Template.Evaluation
import ZodValidators.Template.Parser

/-!
# The text of a module

A module is rendered from its sections with a template, and headers are put in front of it. The
standard template writes the imports, and every section as a banner and its declarations.
-/

set_option autoImplicit false

namespace ZodValidators

namespace ModuleText

def headingRule : Text := List.replicate 49 (.char '/')

def heading (title : Text) : Text := headingRule ++ "\n// " ++ title ++ "\n" ++ headingRule

def standardParts : List String :=
  ["\x7b\x7b zod_import \x7d\x7d\n",
   "\x7b\x7b client_import \x7d\x7d\n",
   "\x7b% for section in sections %\x7d\n",
   "\n",
   "\x7b\x7b section.title | heading \x7d\x7d\n",
   "\x7b% for declaration in section.declarations %\x7d\n",
   "\n",
   "export const \x7b\x7b declaration.name \x7d\x7d",
   "\x7b% if declaration.type_annotation %\x7d: \x7b\x7b declaration.type_annotation \x7d\x7d",
   "\x7b% endif %\x7d = \x7b\x7b declaration.body \x7d\x7d;\n",
   "\x7b% endfor %\x7d\n",
   "\x7b% endfor %\x7d\n"]

def standardTemplate : List Char := standardParts.flatMap String.toList

def filters : Template.Filters := [("heading", heading)]

def declarationValue (declaration : Declaration) : Template.Value :=
  .record "Declaration" [
    ("name", .text declaration.name),
    ("body", .text declaration.body),
    ("type_annotation", match declaration.declaredType with
      | some declared => .text declared
      | none => .absent),
    ("kind", .text declaration.kind)]

def sectionValue (group : Section) : Template.Value :=
  .record "DeclarationSection" [
    ("title", .text group.title),
    ("declarations", .items (group.declarations.map declarationValue))]

def scope (options : Options) (sections : List Section) : Template.Scope :=
  [("zod_import", .text options.zodImport),
   ("client_import", .text options.clientImport),
   ("sections", .items (sections.map sectionValue))]

/-- The text with a header in front. A blank line separates them, unless the header ends in a line
feed already. -/
def addHeader (header content : Text) : Text :=
  header ++ (if header.getLast? = some (.char '\n') then "\n" else "\n\n") ++ content

/-- The text with all headers put in front, so that the last one comes first. -/
def addHeaders (headers : List Text) (content : Text) : Text :=
  headers.foldl (fun content header => addHeader header content) content

def render (options : Options) (headers : List Text) (template : List Char)
    (sections : List Section) : Except Template.Fault Text := do
  let nodes ← Template.parse template
  let content ← Template.evaluateAll filters (scope options sections) nodes
  return addHeaders headers content

end ModuleText

end ZodValidators
