import ZodValidators.Proofs.StandardModule
import ZodValidators.Proofs.Traversal
import ZodValidators.Proofs.UniqueReading

/-!
# Reading modules back

A generated module shows all that it was rendered from, as long as all names in it are names of the
schema language and no body holds the end of a statement. A name ends where a word does, a body where
a statement does, and what stands behind a declaration tells whether another one or a banner follows.
-/

set_option autoImplicit false

namespace ZodValidators

/-! ## Statements -/

/-- No statement ends inside the text. -/
def Text.IsUnended (text : Text) : Prop := ¬ (";\n" : Text) <:+: text

instance (text : Text) : Decidable text.IsUnended := inferInstanceAs (Decidable (¬ _))

namespace Text

theorem IsUnended.tail {first : CodePoint} {text : Text} (unended : IsUnended (first :: text)) :
    text.IsUnended :=
  fun inside => unended (inside.trans (List.suffix_cons _ _).isInfix)

/-- The end of a statement cannot start inside the text and reach beyond it. -/
private theorem unended_append_ne {first : CodePoint} {text rest others : Text}
    (unended : IsUnended (first :: text)) :
    first :: (text ++ (";\n" ++ rest)) ≠ ";\n" ++ others := by
  intro same
  obtain ⟨rfl, following⟩ := List.cons.inj same
  cases text with
  | nil => cases following
  | cons second more =>
      obtain ⟨rfl, _⟩ := List.cons.inj following
      exact unended ⟨[], more, rfl⟩

/-- A statement and what follows its end are found again. -/
theorem unended_append_inj {left right rest others : Text}
    (leftUnended : left.IsUnended) (rightUnended : right.IsUnended)
    (same : left ++ (";\n" ++ rest) = right ++ (";\n" ++ others)) :
    left = right ∧ rest = others := by
  induction left generalizing right with
  | nil =>
      cases right with
      | nil => exact ⟨rfl, List.append_cancel_left same⟩
      | cons => exact absurd same.symm (unended_append_ne rightUnended)
  | cons first text ih =>
      cases right with
      | nil => exact absurd same (unended_append_ne leftUnended)
      | cons other more =>
          obtain ⟨rfl, following⟩ := List.cons.inj same
          obtain ⟨rfl, behind⟩ := ih leftUnended.tail rightUnended.tail following
          exact ⟨rfl, behind⟩

end Text

/-! ## Declarations -/

/-- The declaration is called by a name of the schema language and its statement ends where its body
does. -/
structure Declaration.IsReadable (declaration : Declaration) : Prop where
  name : declaration.name.IsName
  body : declaration.body.IsUnended

/-- The declaration has no type, or that of its own name. -/
def Declaration.HasOwnType (options : Options) (declaration : Declaration) : Prop :=
  declaration.declaredType = none ∨
    declaration.declaredType = some (options.declaredType declaration.name)

/-- The title stands on one line, and every declaration can be read and has no other type than its
own. -/
structure Section.IsReadable (options : Options) (group : Section) : Prop where
  title : ∀ codePoint ∈ group.title, codePoint ≠ .char '\n'
  declarations : ∀ declaration ∈ group.declarations, declaration.IsReadable
  types : ∀ declaration ∈ group.declarations, declaration.HasOwnType options

def Declaration.shown (declaration : Declaration) : Declaration := { declaration with kind := [] }

def Section.shown (group : Section) : Section :=
  { group with declarations := group.declarations.map Declaration.shown }

namespace ModuleText

theorem declarationText_append (declaration : Declaration) (rest : Text) :
    declarationText declaration ++ rest =
      "\nexport const " ++ (declaration.name ++ (annotationText declaration.declaredType ++
        (" = " ++ (declaration.body ++ (";\n" ++ rest))))) := by
  simp only [declarationText, List.append_assoc]

theorem stopsWords_annotationText (declaredType : Option Text) (rest : Text) :
    (annotationText declaredType ++ (" = " ++ rest)).StopsWords := by
  match declaredType with
  | none | some [] | some (_ :: _) => rintro _ ⟨⟩; decide

theorem declarationText_append_inj {options : Options} {declaration other : Declaration}
    {rest behind : Text} (readable : declaration.IsReadable) (otherReadable : other.IsReadable)
    (typed : declaration.HasOwnType options) (otherTyped : other.HasOwnType options)
    (same : declarationText declaration ++ rest = declarationText other ++ behind) :
    declaration.shown = other.shown ∧ rest = behind := by
  rw [declarationText_append, declarationText_append] at same
  obtain ⟨name, following⟩ := Text.word_append_inj readable.name.isIdentifier.2
    otherReadable.name.isIdentifier.2 (stopsWords_annotationText _ _)
    (stopsWords_annotationText _ _) (List.append_cancel_left same)
  -- The name gives the type, and the colon tells whether there is one.
  have declaredType : declaration.declaredType = other.declaredType := by
    rcases typed with untyped | typed <;> rcases otherTyped with otherUntyped | otherTyped
    · rw [untyped, otherUntyped]
    · rw [untyped, otherTyped] at following
      cases following
    · rw [typed, otherUntyped] at following
      cases following
    · rw [typed, otherTyped, name]
  rw [declaredType] at following
  obtain ⟨body, rfl⟩ := Text.unended_append_inj readable.body otherReadable.body
    (List.append_cancel_left (List.append_cancel_left following))
  rw [Declaration.shown, Declaration.shown, name, declaredType, body]
  exact ⟨rfl, rfl⟩

def StopsDeclarations (text : Text) : Prop := ¬ ("\nexport const " : Text) <+: text

theorem declarations_append_inj {options : Options} {declarations others : List Declaration}
    {rest behind : Text}
    (readable : ∀ declaration ∈ declarations, declaration.IsReadable)
    (otherReadable : ∀ declaration ∈ others, declaration.IsReadable)
    (typed : ∀ declaration ∈ declarations, declaration.HasOwnType options)
    (otherTyped : ∀ declaration ∈ others, declaration.HasOwnType options)
    (restStops : StopsDeclarations rest) (behindStops : StopsDeclarations behind)
    (same : declarations.flatMap declarationText ++ rest =
      others.flatMap declarationText ++ behind) :
    declarations.map Declaration.shown = others.map Declaration.shown ∧ rest = behind := by
  have starts (declaration : Declaration) (following : Text) :
      ("\nexport const " : Text) <+: declarationText declaration ++ following := by
    rw [declarationText_append]
    exact List.prefix_append _ _
  induction declarations generalizing others with
  | nil =>
      cases others with
      | nil => exact ⟨rfl, same⟩
      | cons other more =>
          rw [List.flatMap_nil, List.nil_append, List.flatMap_cons, List.append_assoc] at same
          exact absurd (same ▸ starts other _) restStops
  | cons declaration following ih =>
      cases others with
      | nil =>
          rw [List.flatMap_nil, List.nil_append, List.flatMap_cons, List.append_assoc] at same
          exact absurd (same ▸ starts declaration _) behindStops
      | cons other more =>
          rw [List.forall_mem_cons] at readable otherReadable typed otherTyped
          rw [List.flatMap_cons, List.flatMap_cons, List.append_assoc, List.append_assoc] at same
          obtain ⟨first, tail⟩ := declarationText_append_inj readable.1 otherReadable.1 typed.1
            otherTyped.1 same
          obtain ⟨later, endSame⟩ := ih readable.2 otherReadable.2 typed.2 otherTyped.2 tail
          rw [List.map_cons, List.map_cons, first, later]
          exact ⟨rfl, endSame⟩

/-! ## Sections -/

theorem sectionText_append (group : Section) (rest : Text) :
    sectionText group ++ rest =
      "\n" ++ (headingRule ++ ("\n// " ++ (group.title ++ ("\n" ++ (headingRule ++ ("\n" ++
        (group.declarations.flatMap declarationText ++ rest))))))) := by
  simp only [sectionText, heading, List.append_assoc]

theorem stopsDeclarations_sections (sections : List Section) :
    StopsDeclarations (sections.flatMap sectionText) := by
  cases sections with
  | nil => rintro ⟨rest, same⟩; cases same
  | cons group following =>
      rw [List.flatMap_cons, sectionText_append]
      rintro ⟨rest, same⟩
      cases same

theorem sections_inj {options : Options} {sections others : List Section}
    (readable : ∀ group ∈ sections, group.IsReadable options)
    (otherReadable : ∀ group ∈ others, group.IsReadable options)
    (same : sections.flatMap sectionText = others.flatMap sectionText) :
    sections.map Section.shown = others.map Section.shown := by
  induction sections generalizing others with
  | nil =>
      cases others with
      | nil => rfl
      | cons other more =>
          rw [List.flatMap_nil, List.flatMap_cons, sectionText_append] at same
          cases same
  | cons group following ih =>
      cases others with
      | nil =>
          rw [List.flatMap_nil, List.flatMap_cons, sectionText_append] at same
          cases same
      | cons other more =>
          rw [List.forall_mem_cons] at readable otherReadable
          rw [List.flatMap_cons, List.flatMap_cons, sectionText_append, sectionText_append] at same
          have titled := List.append_cancel_left
            (List.append_cancel_left (List.append_cancel_left same))
          obtain ⟨title, lines⟩ := Text.span_append_inj
            (fun codePoint member => decide_eq_true (readable.1.title codePoint member))
            (fun codePoint member => decide_eq_true (otherReadable.1.title codePoint member))
            (by rintro _ ⟨⟩; decide) (by rintro _ ⟨⟩; decide) titled
          obtain ⟨declarations, tail⟩ := declarations_append_inj readable.1.declarations
            otherReadable.1.declarations readable.1.types otherReadable.1.types
            (stopsDeclarations_sections following) (stopsDeclarations_sections more)
            (List.append_cancel_left (List.append_cancel_left (List.append_cancel_left lines)))
          have first : group.shown = other.shown := by
            rw [Section.shown, Section.shown, title, declarations]
          rw [List.map_cons, List.map_cons, first, ih readable.2 otherReadable.2 tail]

/-! ## Modules -/

theorem addHeaders_injective (headers : List Text) : Function.Injective (addHeaders headers) := by
  induction headers with
  | nil => exact fun _ _ same => same
  | cons header rest ih =>
      intro content other same
      exact List.append_cancel_left (ih same)

theorem standardText_inj {options : Options} {sections others : List Section}
    (same : standardText options sections = standardText options others) :
    sections.flatMap sectionText = others.flatMap sectionText :=
  List.append_cancel_left (List.append_cancel_left (List.append_cancel_left
    (List.append_cancel_left same)))

end ModuleText

/-! ## Generated sections -/

theorem BuildContext.hasOwnType_objectDeclaration {context : BuildContext} {kind : DeclarationKind}
    {deferred : Bool} {name : Text} {fields : List Field} {declaration : Declaration}
    (built : context.objectDeclaration kind deferred name fields = .ok declaration) :
    declaration.HasOwnType context.options := by
  rw [objectDeclaration] at built
  split at built
  · obtain rfl := Except.ok.inj built
    exact .inr rfl
  · cases built

def DeclarationKind.all : List DeclarationKind := [.enumeration, .input, .arguments]

theorem DeclarationKind.title_on_line (kind : DeclarationKind) :
    ∀ codePoint ∈ (kind.title : Text), codePoint ≠ .char '\n' := by
  cases kind <;> decide

/-- A generated section holds the declarations of one kind, which have no type but their own. -/
theorem Schema.exists_groups {options : Options} {registry : Registry} {schema : Schema}
    {sections : List Section} (built : schema.sections options registry = .ok sections) :
    ∃ groups : DeclarationKind → List Declaration,
      sections = DeclarationKind.all.map
        (fun kind => { title := kind.title, declarations := groups kind }) ∧
      ∀ kind, ∀ declaration ∈ groups kind,
        declaration.HasOwnType options ∧ declaration.kind = kind.label := by
  obtain ⟨inputs, arguments, rfl, inputsBuilt, argumentsBuilt⟩ := sections_eq_ok built
  refine ⟨fun kind => kind.casesOn (schema.enumDeclarations options) inputs arguments, rfl, ?_⟩
  intro kind declaration member
  cases kind with
  | enumeration =>
      obtain ⟨enumType, _, rfl⟩ := List.mem_map.mp member
      exact ⟨.inl rfl, rfl⟩
  | input =>
      obtain ⟨inputType, _, declared⟩ := exists_of_forall₂ inputsBuilt member
      exact ⟨BuildContext.hasOwnType_objectDeclaration declared,
        (BuildContext.objectDeclaration_eq_ok declared).2.1⟩
  | arguments =>
      obtain ⟨operation, _, declared⟩ := exists_of_forall₂ argumentsBuilt member
      exact ⟨BuildContext.hasOwnType_objectDeclaration declared,
        (BuildContext.objectDeclaration_eq_ok declared).2.1⟩

theorem Schema.isReadable_sections {options : Options} {registry : Registry} {schema : Schema}
    {sections : List Section} (built : schema.sections options registry = .ok sections)
    (readable : ∀ group ∈ sections, ∀ declaration ∈ group.declarations, declaration.IsReadable) :
    ∀ group ∈ sections, group.IsReadable options := by
  intro group listed
  have readableHere := readable group listed
  obtain ⟨groups, rfl, own⟩ := exists_groups built
  obtain ⟨kind, _, rfl⟩ := List.mem_map.mp listed
  exact ⟨kind.title_on_line, readableHere, fun declaration member => (own kind declaration member).1⟩

/-- Declarations of one kind are told apart by what a module shows of them. -/
theorem Declaration.eq_of_map_shown_eq {kind : Text} {declarations others : List Declaration}
    (kinds : ∀ declaration ∈ declarations, declaration.kind = kind)
    (otherKinds : ∀ declaration ∈ others, declaration.kind = kind)
    (same : declarations.map shown = others.map shown) : declarations = others := by
  have restored {list : List Declaration} (all : ∀ declaration ∈ list, declaration.kind = kind) :
      (list.map shown).map (fun declaration => { declaration with kind }) = list := by
    rw [List.map_map]
    apply (List.map_congr_left _).trans (List.map_id _)
    intro declaration member
    rw [Function.comp_apply, shown, ← all declaration member, id]
  rw [← restored kinds, ← restored otherKinds, same]

/-- The kind that a module does not show is that of the section. -/
theorem Schema.sections_eq_of_shown_eq {options : Options} {registry otherRegistry : Registry}
    {schema other : Schema} {sections others : List Section}
    (built : schema.sections options registry = .ok sections)
    (otherBuilt : other.sections options otherRegistry = .ok others)
    (same : sections.map Section.shown = others.map Section.shown) : sections = others := by
  obtain ⟨groups, rfl, own⟩ := exists_groups built
  obtain ⟨otherGroups, rfl, otherOwn⟩ := exists_groups otherBuilt
  rw [List.map_map, List.map_map, List.map_inj_left] at same
  apply List.map_congr_left
  intro kind listed
  have shown := congrArg Section.declarations (same kind listed)
  rw [Declaration.eq_of_map_shown_eq (fun declaration member => (own kind declaration member).2)
    (fun declaration member => (otherOwn kind declaration member).2) shown]

/-- The text of a generated module determines the sections it was rendered from: their titles and
declarations with names, types, kinds and bodies, in order. This holds for all options and headers,
as long as the declarations can be read. -/
theorem Schema.standardModule_eq_iff {options : Options} {headers : List Text}
    {registry otherRegistry : Registry} {schema other : Schema} {sections others : List Section}
    (built : schema.sections options registry = .ok sections)
    (otherBuilt : other.sections options otherRegistry = .ok others)
    (readable : ∀ group ∈ sections, ∀ declaration ∈ group.declarations, declaration.IsReadable)
    (otherReadable : ∀ group ∈ others, ∀ declaration ∈ group.declarations,
      declaration.IsReadable) :
    ∃ text otherText,
      ModuleText.render options headers ModuleText.standardTemplate sections = .ok text ∧
      ModuleText.render options headers ModuleText.standardTemplate others = .ok otherText ∧
      (text = otherText ↔ sections = others) := by
  refine ⟨_, _, ModuleText.render_standardTemplate .., ModuleText.render_standardTemplate .., ?_⟩
  constructor
  · intro same
    have texts := ModuleText.standardText_inj (ModuleText.addHeaders_injective headers same)
    exact sections_eq_of_shown_eq built otherBuilt <| ModuleText.sections_inj
      (isReadable_sections built readable) (isReadable_sections otherBuilt otherReadable) texts
  · rintro rfl
    rfl

def memberSchema (required : Bool) : Schema where
  enums := Table.ofList [("Role", { name := "Role" })]
  inputs := Table.ofList [("Member", {
    name := "Member"
    fields := [{
      name := "role"
      candidates := [{ name := "Role", location := Location.enumeration }]
      required }] })]

def memberSections (modifiers : String) : List Section := [
  { title := "ENUMS"
    declarations := [{ name := "Role", body := "z.nativeEnum(Prisma.Role)", kind := "enum" }] },
  { title := "INPUT TYPES"
    declarations := [{
      name := "Member"
      body := "z.object(\x7b\n  role: z.lazy(() => Role)" ++ modifiers ++ ",\n\x7d).strict()"
      declaredType := some ("z.ZodType<Prisma.Prisma.Member>" : Text) }] },
  { title := "ARGS" }]

theorem isReadable_memberSections {modifiers : String}
    (unended : Text.IsUnended
      ("z.object(\x7b\n  role: z.lazy(() => Role)" ++ modifiers ++ ",\n\x7d).strict()")) :
    ∀ group ∈ memberSections modifiers, ∀ declaration ∈ group.declarations,
      declaration.IsReadable := by
  simp only [memberSections, List.forall_mem_cons]
  refine ⟨⟨⟨?_, by decide +kernel⟩, by simp⟩, ⟨⟨?_, unended⟩, by simp⟩, by simp, by simp⟩
  · exact ⟨'R', "ole".toList, rfl, by decide, List.all_eq_true.mp (by decide)⟩
  · exact ⟨'M', "ember".toList, rfl, by decide, List.all_eq_true.mp (by decide)⟩

theorem Schema.standardModule_ne_memberSchema :
    (memberSchema true).sections {} Registry.default = .ok (memberSections "") ∧
    (memberSchema false).sections {} Registry.default = .ok (memberSections ".optional()") ∧
    ∃ text otherText,
      ModuleText.render {} ["// generated"] ModuleText.standardTemplate (memberSections "") =
        .ok text ∧
      ModuleText.render {} ["// generated"] ModuleText.standardTemplate
        (memberSections ".optional()") = .ok otherText ∧
      text ≠ otherText := by
  have built : (memberSchema true).sections {} Registry.default = .ok (memberSections "") := by
    rfl
  have otherBuilt : (memberSchema false).sections {} Registry.default =
      .ok (memberSections ".optional()") := by
    rfl
  have different : memberSections "" ≠ memberSections ".optional()" := by decide +kernel
  obtain ⟨text, otherText, rendered, otherRendered, same_iff⟩ :=
    standardModule_eq_iff built otherBuilt
      (isReadable_memberSections (by decide +kernel))
      (isReadable_memberSections (by decide +kernel))
  exact ⟨built, otherBuilt, text, otherText, rendered, otherRendered,
    fun same => different (same_iff.mp same)⟩

end ZodValidators
