import ZodValidators.ModuleText

/-!
# The standard module

The standard template is well formed, and a module that is rendered by it is two lines of imports,
and for each section a banner and its declarations. So rendering by it succeeds for all sections.
-/

set_option autoImplicit false

namespace ZodValidators.ModuleText

open Template

/-! ## The template -/

def standardPieces : List Piece :=
  [.text [],
   .output " zod_import ".toList, .text ['\n'],
   .output " client_import ".toList, .text ['\n'],
   .tag " for section in sections ".toList, .text ['\n'],
   .output " section.title | heading ".toList, .text ['\n'],
   .tag " for declaration in section.declarations ".toList, .text "\nexport const ".toList,
   .output " declaration.name ".toList, .text [],
   .tag " if declaration.type_annotation ".toList, .text ": ".toList,
   .output " declaration.type_annotation ".toList, .text [],
   .tag " endif ".toList, .text " = ".toList,
   .output " declaration.body ".toList, .text ";\n".toList,
   .tag " endfor ".toList, .text [],
   .tag " endfor ".toList, .text []]

def declarationNodes : List Node :=
  [.text "\nexport const ",
   .output (.member (.name "declaration") "name"),
   .conditional (.member (.name "declaration") "type_annotation")
     [.text ": ", .output (.member (.name "declaration") "type_annotation")],
   .text " = ",
   .output (.member (.name "declaration") "body"),
   .text ";\n"]

def sectionNodes : List Node :=
  [.text "\n",
   .output (.filtered (.member (.name "section") "title") "heading"),
   .text "\n",
   .loop "declaration" (.member (.name "section") "declarations") declarationNodes]

def standardNodes : List Node :=
  [.output (.name "zod_import"), .text "\n",
   .output (.name "client_import"), .text "\n",
   .loop "section" (.name "sections") sectionNodes]

theorem pieces_standardTemplate :
    pieces (Text.unifyLineEnds standardTemplate) = .ok standardPieces := by
  have read : (pieces (Text.unifyLineEnds standardTemplate)).toOption = some standardPieces := by
    decide +kernel
  cases result : pieces (Text.unifyLineEnds standardTemplate) with
  | error fault =>
      rw [result] at read
      cases read
  | ok found =>
      rw [result] at read
      exact congrArg Except.ok (Option.some.inj read)

theorem nest_standardPieces : nest [] [] standardPieces = .ok standardNodes := by
  rfl

theorem parse_eq_ok {template : List Char} {split : List Piece} {nodes : List Node}
    (read : pieces (Text.unifyLineEnds template) = .ok split)
    (nested : nest [] [] split = .ok nodes) : Template.parse template = .ok nodes := by
  rw [parse, read]
  exact nested

theorem parse_standardTemplate : Template.parse standardTemplate = .ok standardNodes :=
  parse_eq_ok pieces_standardTemplate nest_standardPieces

/-! ## Its text -/

/-- The annotation behind a declaration's name. There is none if the type is empty. -/
def annotationText : Option Text → Text
  | none | some [] => []
  | some declared => ": " ++ declared

def declarationText (declaration : Declaration) : Text :=
  "\nexport const " ++ (declaration.name ++ (annotationText declaration.declaredType ++
    (" = " ++ (declaration.body ++ ";\n"))))

def sectionText (group : Section) : Text :=
  "\n" ++ (heading group.title ++ ("\n" ++ group.declarations.flatMap declarationText))

def standardText (options : Options) (sections : List Section) : Text :=
  options.zodImport ++ ("\n" ++ (options.clientImport ++ ("\n" ++ sections.flatMap sectionText)))

section Evaluation

variable {scope : Scope} {node : Node} {rest : List Node} {text others : Text}

theorem evaluateAll_cons (evaluated : node.evaluate filters scope = .ok text)
    (following : evaluateAll filters scope rest = .ok others) :
    evaluateAll filters scope (node :: rest) = .ok (text ++ others) := by
  simp only [evaluateAll, evaluated, following, bind, Except.bind, pure, Except.pure]

theorem evaluateAll_singleton (evaluated : node.evaluate filters scope = .ok text) :
    evaluateAll filters scope [node] = .ok text := by
  rw [← List.append_nil text]
  exact evaluateAll_cons evaluated rfl

/-- A loop over values for each of which the body has a text. -/
theorem evaluate_loop {ι : Type} {item : String} {items : Expression} {body : List Node}
    {elements : List ι} {value : ι → Value} {textOf : ι → Text}
    (evaluated : items.evaluate filters scope = .ok (.items (elements.map value)))
    (each : ∀ element, evaluateAll filters ((item, value element) :: scope) body =
      .ok (textOf element)) :
    (Node.loop item items body).evaluate filters scope = .ok (elements.flatMap textOf) := by
  have texts : (elements.map value).mapM
      (fun element => evaluateAll filters ((item, element) :: scope) body) =
        .ok (elements.map textOf) := by
    rw [List.mapM_map, Function.comp_def, funext each]
    exact List.mapM_pure
  simp only [Node.evaluate, evaluated, Value.elements, texts, bind, Except.bind, pure, Except.pure,
    List.flatMap]

end Evaluation

theorem evaluateAll_declarationNodes (scope : Scope) (declaration : Declaration) :
    evaluateAll filters (("declaration", declarationValue declaration) :: scope)
      declarationNodes = .ok (declarationText declaration) := by
  obtain ⟨name, body, declaredType, kind⟩ := declaration
  have annotation : (Node.conditional (.member (.name "declaration") "type_annotation")
      [.text ": ", .output (.member (.name "declaration") "type_annotation")]).evaluate filters
        (("declaration", declarationValue { name, body, declaredType, kind }) :: scope) =
      .ok (annotationText declaredType) := by
    match declaredType with
    | none | some [] => rfl
    | some (first :: rest) =>
        have printed : annotationText (some (first :: rest)) =
            Text.ofString ": " ++ (first :: rest ++ ([] : Text)) := by
          rw [List.append_nil]
          rfl
        rw [printed]
        rfl
  rw [declarationText, declarationNodes]
  exact evaluateAll_cons rfl <| evaluateAll_cons rfl <| evaluateAll_cons annotation <|
    evaluateAll_cons rfl <| evaluateAll_cons rfl <| evaluateAll_singleton rfl

theorem evaluateAll_sectionNodes (scope : Scope) (group : Section) :
    evaluateAll filters (("section", sectionValue group) :: scope) sectionNodes =
      .ok (sectionText group) :=
  evaluateAll_cons rfl <| evaluateAll_cons rfl <| evaluateAll_cons rfl <| evaluateAll_singleton <|
    evaluate_loop rfl (evaluateAll_declarationNodes _)

theorem evaluateAll_standardNodes (options : Options) (sections : List Section) :
    evaluateAll filters (scope options sections) standardNodes =
      .ok (standardText options sections) :=
  evaluateAll_cons rfl <| evaluateAll_cons rfl <| evaluateAll_cons rfl <| evaluateAll_cons rfl <|
    evaluateAll_singleton <| evaluate_loop rfl (evaluateAll_sectionNodes _)

theorem render_eq_ok {options : Options} {headers : List Text} {template : List Char}
    {sections : List Section} {nodes : List Node} {content : Text}
    (parsed : Template.parse template = .ok nodes)
    (evaluated : evaluateAll filters (scope options sections) nodes = .ok content) :
    render options headers template sections = .ok (addHeaders headers content) := by
  simp only [render, parsed, evaluated, bind, Except.bind, pure, Except.pure]

/-- Rendering by the standard template succeeds for all sections. -/
theorem render_standardTemplate (options : Options) (headers : List Text)
    (sections : List Section) :
    render options headers standardTemplate sections =
      .ok (addHeaders headers (standardText options sections)) :=
  render_eq_ok parse_standardTemplate (evaluateAll_standardNodes options sections)

end ZodValidators.ModuleText
