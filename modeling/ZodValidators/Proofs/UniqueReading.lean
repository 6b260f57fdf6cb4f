import Mathlib.Data.Prod.Basic
import ZodValidators.Proofs.Rendering
import ZodValidators.Sdl.Lexer

/-!
# Reading bodies back

The body of an object can be read in one way only, as long as no custom text stands in it and all
names are plain words. Every part of a body ends where it says so itself: whatever follows a part, the
part and what follows are found again. From the modifiers up to the whole body, each law is stated
with the text that follows.
-/

set_option autoImplicit false

namespace ZodValidators

/-! ## Words -/

/-- A code point that may stand in an identifier: an ASCII letter or digit, the underscore, the
dollar sign, or any character beyond ASCII. -/
def CodePoint.isWordPart (codePoint : CodePoint) : Bool :=
  codePoint.passes fun character =>
    Sdl.isNameCharacter character || character = '$' || 0x80 ≤ character.toNat

/-- An identifier. It does not matter which of its characters may come first. -/
def Text.IsIdentifier (text : Text) : Prop :=
  text ≠ [] ∧ ∀ codePoint ∈ text, codePoint.isWordPart = true

instance (text : Text) : Decidable text.IsIdentifier := inferInstanceAs (Decidable (_ ∧ _))

def Text.IsName (text : Text) : Prop :=
  ∃ first rest, text = ofChars (first :: rest) ∧ Sdl.isNameStart first = true ∧
    ∀ character ∈ rest, Sdl.isNameCharacter character = true

theorem Text.IsName.isIdentifier {text : Text} (name : text.IsName) : text.IsIdentifier := by
  obtain ⟨first, rest, rfl, start, following⟩ := name
  refine ⟨by simp [ofChars], ?_⟩
  have letter : Sdl.isNameCharacter first = true := by
    simp only [Sdl.isNameStart, Bool.or_eq_true] at start
    rcases start with alphabetic | underscore
    · simp [Sdl.isNameCharacter, Char.isAlphanum, alphabetic]
    · simp [Sdl.isNameCharacter, underscore]
  intro codePoint member
  obtain ⟨character, listed, rfl⟩ := List.mem_map.mp member
  have part : Sdl.isNameCharacter character = true := by
    rcases List.mem_cons.mp listed with rfl | later
    · exact letter
    · exact following character later
  simp [CodePoint.isWordPart, CodePoint.passes, part]

def Text.StopsWords (text : Text) : Prop :=
  ∀ codePoint ∈ text.head?, codePoint.isWordPart = false

/-- What passes a test and what follows it, which starts with something else, are found again. -/
theorem Text.span_append_inj {test : CodePoint → Bool} {left right rest others : Text}
    (leftPasses : ∀ codePoint ∈ left, test codePoint = true)
    (rightPasses : ∀ codePoint ∈ right, test codePoint = true)
    (restStops : ∀ codePoint ∈ rest.head?, test codePoint = false)
    (othersStop : ∀ codePoint ∈ others.head?, test codePoint = false)
    (same : left ++ rest = right ++ others) : left = right ∧ rest = others := by
  have front {span behind : Text} (passes : ∀ codePoint ∈ span, test codePoint = true)
      (stops : ∀ codePoint ∈ behind.head?, test codePoint = false) :
      (span ++ behind).takeWhile test = span := by
    rw [List.takeWhile_append_of_pos passes]
    cases behind with
    | nil => simp
    | cons first _ => simp [stops first rfl]
  have equal : left = right := by
    rw [← front leftPasses restStops, same, front rightPasses othersStop]
  subst right
  exact ⟨rfl, List.append_cancel_left same⟩

/-- A word and what follows it are found again. -/
theorem Text.word_append_inj {left right rest others : Text}
    (leftWord : ∀ codePoint ∈ left, codePoint.isWordPart = true)
    (rightWord : ∀ codePoint ∈ right, codePoint.isWordPart = true)
    (restStops : rest.StopsWords) (othersStops : others.StopsWords)
    (same : left ++ rest = right ++ others) : left = right ∧ rest = others :=
  span_append_inj leftWord rightWord restStops othersStops same

/-! ## Modifiers -/

private theorem optional_append_inj {segment rest others : Text} {given other : Bool}
    (restStarts : ¬ segment <+: rest) (othersStarts : ¬ segment <+: others)
    (same : (if given then segment else []) ++ rest = (if other then segment else []) ++ others) :
    given = other ∧ rest = others := by
  cases given <;> cases other
  · exact ⟨rfl, same⟩
  · exact absurd ⟨_, same.symm⟩ restStarts
  · exact absurd ⟨_, same⟩ othersStarts
  · exact ⟨rfl, List.append_cancel_left same⟩

namespace Expression

theorem ofString_modifiers (isList isOptional isNullable : Bool) :
    Text.ofString (modifiers isList isOptional isNullable) =
      (if isList then Text.ofString ".array()" else []) ++
        ((if isOptional then Text.ofString ".optional()" else []) ++
          (if isNullable then Text.ofString ".nullable()" else [])) := by
  cases isList <;> cases isOptional <;> cases isNullable <;> rfl

theorem modifiers_append_inj {isList isOptional isNullable : Bool}
    {otherList otherOptional otherNullable : Bool} {rest others : Text}
    (same : (modifiers isList isOptional isNullable : Text) ++ ("," ++ rest) =
      modifiers otherList otherOptional otherNullable ++ ("," ++ others)) :
    isList = otherList ∧ isOptional = otherOptional ∧ isNullable = otherNullable ∧
      rest = others := by
  have nullableStarts (rest : Text) : ¬ (".nullable()" : Text) <+: "," ++ rest := by
    simp [Text.ofString, Text.ofChars]
  have optionalStarts (isNullable : Bool) (rest : Text) : ¬ (".optional()" : Text) <+:
      (if isNullable then Text.ofString ".nullable()" else []) ++ ("," ++ rest) := by
    cases isNullable <;> simp [Text.ofString, Text.ofChars]
  have arrayStarts (isOptional isNullable : Bool) (rest : Text) : ¬ (".array()" : Text) <+:
      (if isOptional then Text.ofString ".optional()" else []) ++
        ((if isNullable then Text.ofString ".nullable()" else []) ++ ("," ++ rest)) := by
    cases isOptional <;> cases isNullable <;> simp [Text.ofString, Text.ofChars]
  simp only [ofString_modifiers, List.append_assoc] at same
  obtain ⟨lists, same⟩ := optional_append_inj (arrayStarts _ _ _) (arrayStarts _ _ _) same
  obtain ⟨optionals, same⟩ := optional_append_inj (optionalStarts _ _) (optionalStarts _ _) same
  obtain ⟨nullables, same⟩ := optional_append_inj (nullableStarts _) (nullableStarts _) same
  exact ⟨lists, optionals, nullables, List.append_cancel_left same⟩

theorem stopsWords_modifiers (isList isOptional isNullable : Bool) (rest : Text) :
    ((modifiers isList isOptional isNullable : Text) ++ ("," ++ rest)).StopsWords := by
  rw [ofString_modifiers]
  cases isList <;> cases isOptional <;> cases isNullable <;>
    simp [Text.StopsWords, Text.ofString, Text.ofChars, CodePoint.isWordPart, CodePoint.passes,
      Sdl.isNameCharacter]

end Expression

/-! ## Candidates -/

namespace Rendering

/-- The text of a form in a field without custom text. -/
def plainText : Rendering → Text
  | .construction zodType => "z." ++ (zodType ++ "()")
  | .lazyReference name => "z.lazy(() => " ++ (name ++ ")")
  | .directReference name => name

/-- The names in a form are words, and no direct reference looks like the zod module. -/
def IsReadable : Rendering → Prop
  | .construction zodType => zodType.IsIdentifier
  | .lazyReference name => name.IsIdentifier
  | .directReference name => name.IsIdentifier ∧ name ≠ "z"

/-- The text of a form with its modifiers and the comma. -/
def entry (rendering : Rendering) (isList isOptional isNullable : Bool) : Text :=
  rendering.plainText ++ (Expression.modifiers isList isOptional isNullable ++ ",")

private theorem construction_ne_call {zodType word rest others : Text} {inside : CodePoint}
    (identifier : zodType.IsIdentifier) (wordIdentifier : word.IsIdentifier)
    (filled : inside ≠ .char ')') :
    zodType ++ ("()" ++ rest) ≠ word ++ ("(" ++ inside :: others) := by
  intro same
  obtain ⟨_, behind⟩ := Text.word_append_inj identifier.2 wordIdentifier.2
    (by rintro _ ⟨⟩; decide) (by rintro _ ⟨⟩; decide) same
  cases behind
  exact filled rfl

private theorem name_ne_zod {name rest others : Text} (identifier : name.IsIdentifier)
    (different : name ≠ "z") (stops : rest.StopsWords) : name ++ rest ≠ ("z." : Text) ++ others := by
  intro same
  have split : ("z." : Text) ++ others = "z" ++ ("." ++ others) := rfl
  rw [split] at same
  exact different (Text.word_append_inj identifier.2 (by decide) stops
    (by rintro _ ⟨⟩; decide) same).1

private theorem construction_append (zodType rest : Text) :
    (construction zodType).plainText ++ rest = "z." ++ (zodType ++ ("()" ++ rest)) := by
  rw [plainText, List.append_assoc, List.append_assoc]

private theorem lazyReference_append (name rest : Text) :
    (lazyReference name).plainText ++ rest =
      "z." ++ (("lazy" : Text) ++ (("(" : Text) ++ CodePoint.char '(' ::
        (") => " ++ (name ++ (")" ++ rest))))) := by
  rw [plainText, List.append_assoc, List.append_assoc]
  rfl

/-- Only direct references do not start with the zod module. -/
theorem plainText_append_inj {rendering other : Rendering} {rest others : Text}
    (readable : rendering.IsReadable) (otherReadable : other.IsReadable)
    (stops : rest.StopsWords) (otherStops : others.StopsWords)
    (same : rendering.plainText ++ rest = other.plainText ++ others) :
    rendering = other ∧ rest = others := by
  have lazyWord : ("lazy" : Text).IsIdentifier := by decide
  cases rendering with
  | construction zodType =>
      cases other with
      | construction otherType =>
          rw [construction_append, construction_append] at same
          obtain ⟨rfl, behind⟩ := Text.word_append_inj readable.2 otherReadable.2
            (by rintro _ ⟨⟩; decide) (by rintro _ ⟨⟩; decide) (List.append_cancel_left same)
          exact ⟨rfl, List.append_cancel_left behind⟩
      | lazyReference name =>
          rw [construction_append, lazyReference_append] at same
          exact absurd (List.append_cancel_left same)
            (construction_ne_call readable lazyWord (by decide))
      | directReference name =>
          rw [construction_append] at same
          exact absurd same.symm (name_ne_zod otherReadable.1 otherReadable.2 otherStops)
  | lazyReference name =>
      cases other with
      | construction zodType =>
          rw [construction_append, lazyReference_append] at same
          exact absurd (List.append_cancel_left same).symm
            (construction_ne_call otherReadable lazyWord (by decide))
      | lazyReference otherName =>
          simp only [plainText, List.append_assoc] at same
          obtain ⟨rfl, behind⟩ := Text.word_append_inj readable.2 otherReadable.2
            (by rintro _ ⟨⟩; decide) (by rintro _ ⟨⟩; decide) (List.append_cancel_left same)
          exact ⟨rfl, List.append_cancel_left behind⟩
      | directReference otherName =>
          rw [lazyReference_append] at same
          exact absurd same.symm (name_ne_zod otherReadable.1 otherReadable.2 otherStops)
  | directReference name =>
      cases other with
      | construction zodType =>
          rw [construction_append] at same
          exact absurd same (name_ne_zod readable.1 readable.2 stops)
      | lazyReference otherName =>
          rw [lazyReference_append] at same
          exact absurd same (name_ne_zod readable.1 readable.2 stops)
      | directReference otherName =>
          obtain ⟨rfl, behind⟩ := Text.word_append_inj readable.1.2 otherReadable.1.2 stops
            otherStops same
          exact ⟨rfl, behind⟩

theorem entry_append (rendering : Rendering) (isList isOptional isNullable : Bool) (rest : Text) :
    rendering.entry isList isOptional isNullable ++ rest =
      rendering.plainText ++
        (Expression.modifiers isList isOptional isNullable ++ ("," ++ rest)) := by
  rw [entry, List.append_assoc, List.append_assoc]

theorem entry_append_inj {rendering other : Rendering} {isList isOptional isNullable : Bool}
    {otherList otherOptional otherNullable : Bool} {rest others : Text}
    (readable : rendering.IsReadable) (otherReadable : other.IsReadable)
    (same : rendering.entry isList isOptional isNullable ++ rest =
      other.entry otherList otherOptional otherNullable ++ others) :
    rendering = other ∧ isList = otherList ∧ isOptional = otherOptional ∧
      isNullable = otherNullable ∧ rest = others := by
  rw [entry_append, entry_append] at same
  obtain ⟨rfl, behind⟩ := plainText_append_inj readable otherReadable
    (Expression.stopsWords_modifiers _ _ _ _) (Expression.stopsWords_modifiers _ _ _ _) same
  exact ⟨rfl, Expression.modifiers_append_inj behind⟩

theorem exists_plainText_eq_cons {rendering : Rendering} (readable : rendering.IsReadable) :
    ∃ first rest, rendering.plainText = first :: rest ∧ first.isWordPart = true := by
  cases rendering with
  | construction | lazyReference => exact ⟨_, _, rfl, by decide⟩
  | directReference name =>
      obtain ⟨⟨filled, parts⟩, _⟩ := readable
      obtain ⟨first, rest, rfl⟩ := List.exists_cons_of_ne_nil filled
      exact ⟨first, rest, rfl, parts first List.mem_cons_self⟩

end Rendering

/-! ## Fields -/

/-- The forms of several candidates, and for each whether it is a list. -/
abbrev Forms := List (Rendering × Bool)

namespace Forms

/-- The names in all forms are words. -/
def IsReadable (forms : Forms) : Prop := ∀ form ∈ forms, form.1.IsReadable

def branches (forms : Forms) : Text :=
  forms.flatMap fun form => form.1.entry form.2 false false

def union (forms : Forms) (isOptional isNullable : Bool) : Text :=
  "z.union([ " ++ (forms.branches ++
    (" ])" ++ (Expression.modifiers false isOptional isNullable ++ ",")))

def expression (forms : Forms) (isOptional isNullable : Bool) : Text :=
  match forms with
  | [form] => form.1.entry form.2 isOptional isNullable
  | forms => forms.union isOptional isNullable

theorem branches_append_inj {forms others : Forms} {rest behind : Text}
    (readable : forms.IsReadable) (otherReadable : others.IsReadable)
    (same : forms.branches ++ (" ])" ++ rest) = others.branches ++ (" ])" ++ behind)) :
    forms = others ∧ rest = behind := by
  -- An entry starts with a word, and a word is what the end of the union does not start with.
  have entry_ne_closing {form : Rendering × Bool} {following closing : Text}
      (formReadable : form.1.IsReadable) :
      form.1.entry form.2 false false ++ following ≠ " ])" ++ closing := by
    obtain ⟨first, later, starts, word⟩ := Rendering.exists_plainText_eq_cons formReadable
    rw [Rendering.entry_append, starts]
    intro clash
    obtain ⟨rfl, _⟩ := List.cons.inj clash
    exact absurd word (by decide)
  induction forms generalizing others with
  | nil =>
      cases others with
      | nil => exact ⟨rfl, List.append_cancel_left same⟩
      | cons other more =>
          simp only [branches, List.flatMap_cons, List.append_assoc] at same
          exact absurd same.symm (entry_ne_closing (otherReadable other List.mem_cons_self))
  | cons form following ih =>
      cases others with
      | nil =>
          simp only [branches, List.flatMap_cons, List.append_assoc] at same
          exact absurd same (entry_ne_closing (readable form List.mem_cons_self))
      | cons other more =>
          simp only [branches, List.flatMap_cons, List.append_assoc] at same
          obtain ⟨sameForm, sameList, _, _, tail⟩ := Rendering.entry_append_inj
            (readable form List.mem_cons_self) (otherReadable other List.mem_cons_self) same
          obtain ⟨rfl, rfl⟩ := ih (fun one member => readable one (List.mem_cons_of_mem _ member))
            (fun one member => otherReadable one (List.mem_cons_of_mem _ member)) tail
          exact ⟨by rw [Prod.ext sameForm sameList], rfl⟩

theorem union_append (forms : Forms) (isOptional isNullable : Bool) (rest : Text) :
    forms.union isOptional isNullable ++ rest =
      "z.union([ " ++ (forms.branches ++ (" ])" ++
        (Expression.modifiers false isOptional isNullable ++ ("," ++ rest)))) := by
  simp only [union, List.append_assoc]

theorem union_append_inj {forms others : Forms}
    {isOptional isNullable otherOptional otherNullable : Bool} {rest behind : Text}
    (readable : forms.IsReadable) (otherReadable : others.IsReadable)
    (same : forms.union isOptional isNullable ++ rest =
      others.union otherOptional otherNullable ++ behind) :
    forms = others ∧ isOptional = otherOptional ∧ isNullable = otherNullable ∧ rest = behind := by
  rw [union_append, union_append] at same
  obtain ⟨rfl, tail⟩ := branches_append_inj readable otherReadable (List.append_cancel_left same)
  obtain ⟨_, optionals, nullables, following⟩ := Expression.modifiers_append_inj tail
  exact ⟨rfl, optionals, nullables, following⟩

/-- A single form is no union, whatever its zod type or its declaration is called. -/
private theorem entry_ne_union {form : Rendering × Bool} {forms : Forms}
    {isOptional isNullable otherOptional otherNullable : Bool} {rest others : Text}
    (readable : form.1.IsReadable) :
    form.1.entry form.2 isOptional isNullable ++ rest ≠
      forms.union otherOptional otherNullable ++ others := by
  have unionWord : ("union" : Text).IsIdentifier := by decide
  have call (following : Text) : ("z.union([ " : Text) ++ following =
      "z." ++ (("union" : Text) ++ (("(" : Text) ++ CodePoint.char '[' :: (" " ++ following))) := rfl
  rw [Rendering.entry_append, union_append, call]
  obtain ⟨rendering, isList⟩ := form
  cases rendering with
  | construction zodType =>
      rw [Rendering.construction_append]
      exact fun same => Rendering.construction_ne_call readable unionWord (by decide)
        (List.append_cancel_left same)
  | lazyReference name =>
      rw [Rendering.lazyReference_append]
      intro same
      cases List.append_cancel_left same
  | directReference name =>
      exact Rendering.name_ne_zod readable.1 readable.2 (Expression.stopsWords_modifiers _ _ _ _)

private theorem expression_cases (forms : Forms) :
    (∃ form, forms = [form]) ∨
      ∀ isOptional isNullable, forms.expression isOptional isNullable =
        forms.union isOptional isNullable := by
  match forms with
  | [] => exact .inr fun _ _ => rfl
  | [form] => exact .inl ⟨form, rfl⟩
  | _ :: _ :: _ => exact .inr fun _ _ => rfl

theorem expression_append_inj {forms others : Forms}
    {isOptional isNullable otherOptional otherNullable : Bool} {rest behind : Text}
    (readable : forms.IsReadable) (otherReadable : others.IsReadable)
    (same : forms.expression isOptional isNullable ++ rest =
      others.expression otherOptional otherNullable ++ behind) :
    forms = others ∧ isOptional = otherOptional ∧ isNullable = otherNullable ∧ rest = behind := by
  -- A field with one form and a union differ in the word behind the zod module, or in the module.
  rcases expression_cases forms with ⟨form, rfl⟩ | isUnion <;>
    rcases expression_cases others with ⟨other, rfl⟩ | otherUnion
  · obtain ⟨sameForm, sameList, optionals, nullables, following⟩ := Rendering.entry_append_inj
      (readable form List.mem_cons_self) (otherReadable other List.mem_cons_self) same
    exact ⟨by rw [Prod.ext sameForm sameList], optionals, nullables, following⟩
  · rw [otherUnion] at same
    exact absurd same (entry_ne_union (readable form List.mem_cons_self))
  · rw [isUnion] at same
    exact absurd same.symm (entry_ne_union (otherReadable other List.mem_cons_self))
  · rw [isUnion, otherUnion] at same
    exact union_append_inj readable otherReadable same

end Forms

/-- No text of its own stands in the field, and all names in it are plain words other than the zod
module. -/
structure Field.IsPlain (field : Field) : Prop where
  validator : field.validator.isEmpty = true
  customErrors : field.customErrors.isEmpty = true
  name : field.name.IsName
  references : ∀ candidate ∈ field.nonNullCandidates,
    TypeKind.isReferencePlace candidate.location = true →
      candidate.name.IsName ∧ candidate.name ≠ "z"

/-- All zod types of the registry are words. -/
def Registry.HasIdentifiers (registry : Registry) : Prop :=
  ∀ name, ∀ zodType ∈ registry.zodType? name, zodType.IsIdentifier

theorem Registry.HasIdentifiers.register {registry : Registry} {zodType : Text}
    (identifiers : registry.HasIdentifiers) (identifier : zodType.IsIdentifier) (name : Text) :
    (registry.register name zodType).HasIdentifiers := by
  intro other found registered
  rw [zodType?_register, Option.mem_def] at registered
  split at registered
  · exact Option.some.inj registered ▸ identifier
  · exact identifiers other found registered

theorem Registry.hasIdentifiers_default : Registry.default.HasIdentifiers := by
  have readable : ∀ entry ∈ default.entries, entry.2.zodType.IsIdentifier := by decide +kernel
  intro name zodType registered
  obtain ⟨handler, found, rfl⟩ := Option.map_eq_some_iff.mp registered
  exact readable _ (Table.mem_of_at? found)

namespace Field

/-- The candidates other than null by their forms. -/
def forms (registry : Registry) (deferred : Bool) (field : Field) : Forms :=
  field.nonNullCandidates.map fun candidate =>
    (candidate.rendering registry deferred, candidate.isList)

/-- The optional flag that counts: a field with one candidate has its own, a union is optional as
soon as it is not required. -/
def isOptional (field : Field) : Bool :=
  match field.nonNullCandidates with
  | [_] => field.optional
  | _ => !field.required

theorem isReadable_forms {registry : Registry} {field : Field} (plain : field.IsPlain)
    (identifiers : registry.HasIdentifiers) (usable : field.IsUsable registry) (deferred : Bool) :
    (field.forms registry deferred).IsReadable := by
  intro form member
  obtain ⟨candidate, listed, rfl⟩ := List.mem_map.mp member
  by_cases place : TypeKind.isReferencePlace candidate.location = true
  · obtain ⟨name, different⟩ := plain.references candidate listed place
    rw [TypeRef.rendering_of_isReferencePlace place]
    cases deferred with
    | false => exact ⟨name.isIdentifier, different⟩
    | true => exact name.isIdentifier
  · obtain ⟨_, zodType, registered, _⟩ :=
      (TypeRef.isKnown_iff_of_not_isReferencePlace place).mp (usable.2 candidate listed)
    rw [TypeRef.rendering_of_not_isReferencePlace place, Option.mem_def.mp registered]
    exact identifiers candidate.name zodType registered

theorem candidateText_of_isPlain {field : Field} (plain : field.IsPlain) (registry : Registry)
    (deferred isOptional isNullable : Bool) (candidate : TypeRef) :
    field.candidateText registry deferred isOptional isNullable candidate =
      (candidate.rendering registry deferred).entry candidate.isList isOptional isNullable := by
  have unvalidated : field.validator.inserted = [] := by simp [Constant.inserted, plain.validator]
  have unmentioned : field.customErrors.inserted = [] := by
    simp [Constant.inserted, plain.customErrors]
  rw [candidateText, Rendering.entry, List.append_assoc]
  congr 1
  cases candidate.rendering registry deferred with
  | construction zodType =>
      simp only [Rendering.text, Rendering.plainText, unvalidated, unmentioned, List.append_nil,
        List.append_assoc]
      rfl
  | lazyReference name => simp only [Rendering.text, Rendering.plainText, List.append_assoc]
  | directReference name => rfl

theorem expression_of_isPlain {field : Field} (plain : field.IsPlain) (registry : Registry)
    (deferred : Bool) :
    field.expression registry deferred =
      (field.forms registry deferred).expression field.isOptional field.nullable := by
  have union (candidates : List TypeRef) :
      Expression.union (candidates.map (field.candidateText registry deferred false false))
          (!field.required) field.nullable =
        Forms.union (candidates.map fun candidate =>
          (candidate.rendering registry deferred, candidate.isList)) (!field.required)
          field.nullable := by
    rw [Expression.union, Forms.union, Forms.branches, List.flatMap_map, List.flatMap,
      funext (candidateText_of_isPlain plain registry deferred false false)]
    simp only [List.append_assoc]
  rw [expression, forms, isOptional]
  cases field.nonNullCandidates with
  | nil => exact union []
  | cons first others =>
      cases others with
      | nil => exact candidateText_of_isPlain plain registry deferred _ _ first
      | cons second rest => exact union (first :: second :: rest)

theorem text_append_inj {registry : Registry} {deferred : Bool} {field other : Field}
    {rest behind : Text} (plain : field.IsPlain) (otherPlain : other.IsPlain)
    (readable : (field.forms registry deferred).IsReadable)
    (otherReadable : (other.forms registry deferred).IsReadable)
    (same : field.text registry deferred ++ rest = other.text registry deferred ++ behind) :
    field.name = other.name ∧ field.forms registry deferred = other.forms registry deferred ∧
      field.isOptional = other.isOptional ∧ field.nullable = other.nullable ∧ rest = behind := by
  simp only [text, List.append_assoc] at same
  obtain ⟨name, tail⟩ := Text.word_append_inj plain.name.isIdentifier.2
    otherPlain.name.isIdentifier.2 (by rintro _ ⟨⟩; decide) (by rintro _ ⟨⟩; decide)
    (List.append_cancel_left same)
  have expressions := List.append_cancel_left tail
  rw [expression_of_isPlain plain, expression_of_isPlain otherPlain] at expressions
  exact ⟨name, Forms.expression_append_inj readable otherReadable expressions⟩

end Field

/-! ## Objects -/

private theorem join_cons (separator first : Text) (rest : List Text) :
    Text.join separator (first :: rest) = first ++ rest.flatMap (separator ++ ·) := by
  induction rest generalizing first with
  | nil => simp [Text.join]
  | cons second rest ih =>
      rw [Text.join, List.intercalate_cons_cons, ← Text.join, ih, List.flatMap_cons]
      simp only [List.append_assoc]

def objectLines (lines : List Text) : Text := lines.flatMap (("\n" : Text) ++ ·)

theorem objectText_of_ne_nil {lines : List Text} (filled : lines ≠ []) :
    objectText lines =
      objectOpening ++ (objectLines lines ++ (("\n" : Text) ++ objectClosing)) := by
  obtain ⟨first, rest, rfl⟩ := List.exists_cons_of_ne_nil filled
  simp only [objectText, objectLines, List.cons_append, List.nil_append, join_cons,
    List.flatMap_append, List.flatMap_cons, List.flatMap_nil, List.append_nil, List.append_assoc]

private theorem line_ne_closing {registry : Registry} {deferred : Bool} {field : Field}
    {rest : Text} : field.text registry deferred ++ rest ≠ objectClosing := by
  simp only [Field.text, List.append_assoc]
  rintro ⟨⟩

/-- The shape of a field: its name, what its candidates other than null are classified as and which
of them are lists, and the two flags. -/
structure Field.Shape where
  name : Text
  branches : List (Except UnrecognizedType TypeKind × Bool)
  nullable : Bool
  optional : Bool

def TypeKind.rendering (deferred : Bool) : TypeKind → Rendering
  | .reference name => if deferred then .lazyReference name else .directReference name
  | .scalar zodType | .null zodType => .construction zodType

/-- The category of a form; no form is the marker of null. -/
def Rendering.kind : Rendering → TypeKind
  | .construction zodType => .scalar zodType
  | .lazyReference name | .directReference name => .reference name

theorem TypeRef.rendering_eq (registry : Registry) (deferred : Bool) (candidate : TypeRef) :
    candidate.rendering registry deferred = (candidate.kind registry).rendering deferred := rfl

theorem TypeRef.kind_rendering (registry : Registry) (deferred : Bool) (candidate : TypeRef) :
    (candidate.rendering registry deferred).kind = candidate.kind registry := by
  by_cases place : TypeKind.isReferencePlace candidate.location = true
  · cases deferred <;> simp [rendering_of_isReferencePlace place, kind, place, Rendering.kind]
  · simp [rendering_of_not_isReferencePlace place, kind, place, Rendering.kind]

namespace Field

def shape (registry : Registry) (field : Field) : Shape where
  name := field.name
  branches := field.nonNullCandidates.map fun candidate =>
    (TypeKind.classify registry candidate, candidate.isList)
  nullable := field.nullable
  optional := field.isOptional

def kinds (registry : Registry) (field : Field) : List (TypeKind × Bool) :=
  field.nonNullCandidates.map fun candidate => (candidate.kind registry, candidate.isList)

theorem branches_shape {registry : Registry} {field : Field} (usable : field.IsUsable registry) :
    (field.shape registry).branches = (field.kinds registry).map (Prod.map .ok id) := by
  rw [kinds, List.map_map]
  apply List.map_congr_left
  intro candidate member
  simp only [Function.comp, Prod.map, id]
  rw [TypeKind.classify_of_not_isNull (isNull_of_mem_nonNullCandidates member),
    if_pos (usable.2 candidate member)]

/-- The forms and the categories of the candidates determine each other. -/
theorem forms_eq_iff {registry : Registry} {deferred : Bool} {field other : Field}
    (usable : field.IsUsable registry) (otherUsable : other.IsUsable registry) :
    field.forms registry deferred = other.forms registry deferred ↔
      (field.shape registry).branches = (other.shape registry).branches := by
  have forms_eq (one : Field) : one.forms registry deferred =
      (one.kinds registry).map fun (kind, isList) => (kind.rendering deferred, isList) := by
    simp [forms, kinds, TypeRef.rendering_eq, Function.comp_def]
  have kinds_eq (one : Field) : one.kinds registry =
      (one.forms registry deferred).map fun (rendering, isList) => (rendering.kind, isList) := by
    simp [forms, kinds, TypeRef.kind_rendering, Function.comp_def]
  have wrapped : Function.Injective
      (Prod.map (Except.ok (ε := UnrecognizedType)) id : TypeKind × Bool → _) :=
    Function.Injective.prodMap (fun _ _ => Except.ok.inj) Function.injective_id
  rw [branches_shape usable, branches_shape otherUsable,
    List.map_inj_right fun _ _ same => wrapped same]
  constructor
  · intro same
    rw [kinds_eq field, kinds_eq other, same]
  · intro same
    rw [forms_eq field, forms_eq other, same]

theorem text_eq_of_shape_eq {registry : Registry} {deferred : Bool} {field other : Field}
    (plain : field.IsPlain) (otherPlain : other.IsPlain)
    (usable : field.IsUsable registry) (otherUsable : other.IsUsable registry)
    (same : field.shape registry = other.shape registry) :
    field.text registry deferred = other.text registry deferred := by
  obtain ⟨name, branches, nullable, optional⟩ := Shape.mk.inj same
  rw [text, text, expression_of_isPlain plain, expression_of_isPlain otherPlain,
    (forms_eq_iff usable otherUsable).mpr branches, name, nullable, optional]

end Field

theorem objectLines_append_inj {registry : Registry} {deferred : Bool} {fields others : List Field}
    (identifiers : registry.HasIdentifiers)
    (plain : ∀ field ∈ fields, field.IsPlain) (otherPlain : ∀ field ∈ others, field.IsPlain)
    (usable : ∀ field ∈ fields, field.IsUsable registry)
    (otherUsable : ∀ field ∈ others, field.IsUsable registry)
    (same : objectLines (fields.map (Field.text registry deferred)) ++
        (("\n" : Text) ++ objectClosing) =
      objectLines (others.map (Field.text registry deferred)) ++
        (("\n" : Text) ++ objectClosing)) :
    fields.map (Field.shape registry) = others.map (Field.shape registry) := by
  induction fields generalizing others with
  | nil =>
      cases others with
      | nil => rfl
      | cons other more =>
          simp only [objectLines, List.map_nil, List.flatMap_nil, List.nil_append, List.map_cons,
            List.flatMap_cons, List.append_assoc] at same
          exact absurd (List.append_cancel_left same).symm line_ne_closing
  | cons field rest ih =>
      cases others with
      | nil =>
          simp only [objectLines, List.map_nil, List.flatMap_nil, List.nil_append, List.map_cons,
            List.flatMap_cons, List.append_assoc] at same
          exact absurd (List.append_cancel_left same) line_ne_closing
      | cons other more =>
          simp only [objectLines, List.map_cons, List.flatMap_cons, List.append_assoc] at same
          rw [List.forall_mem_cons] at plain otherPlain usable otherUsable
          obtain ⟨name, forms, optional, nullable, behind⟩ := Field.text_append_inj plain.1
            otherPlain.1 (Field.isReadable_forms plain.1 identifiers usable.1 deferred)
            (Field.isReadable_forms otherPlain.1 identifiers otherUsable.1 deferred)
            (List.append_cancel_left same)
          have first : field.shape registry = other.shape registry :=
            Field.Shape.mk.injEq .. ▸
              ⟨name, (Field.forms_eq_iff usable.1 otherUsable.1).mp forms, nullable, optional⟩
          rw [List.map_cons, List.map_cons, first,
            ih plain.2 otherPlain.2 usable.2 otherUsable.2 behind]

theorem map_text_eq_of_shapes {registry : Registry} {deferred : Bool} {fields others : List Field}
    (plain : ∀ field ∈ fields, field.IsPlain) (otherPlain : ∀ field ∈ others, field.IsPlain)
    (usable : ∀ field ∈ fields, field.IsUsable registry)
    (otherUsable : ∀ field ∈ others, field.IsUsable registry)
    (same : fields.map (Field.shape registry) = others.map (Field.shape registry)) :
    fields.map (Field.text registry deferred) = others.map (Field.text registry deferred) := by
  induction fields generalizing others with
  | nil => rw [List.map_eq_nil_iff.mp same.symm]
  | cons field rest ih =>
      cases others with
      | nil => simp at same
      | cons other more =>
          rw [List.forall_mem_cons] at plain otherPlain usable otherUsable
          obtain ⟨first, following⟩ := List.cons.inj same
          rw [List.map_cons, List.map_cons,
            Field.text_eq_of_shape_eq plain.1 otherPlain.1 usable.1 otherUsable.1 first,
            ih plain.2 otherPlain.2 usable.2 otherUsable.2 following]

theorem objectText_eq_iff_shapes {registry : Registry} {deferred : Bool}
    {fields others : List Field} (identifiers : registry.HasIdentifiers)
    (plain : ∀ field ∈ fields, field.IsPlain) (otherPlain : ∀ field ∈ others, field.IsPlain)
    (usable : ∀ field ∈ fields, field.IsUsable registry)
    (otherUsable : ∀ field ∈ others, field.IsUsable registry) :
    objectText (fields.map (Field.text registry deferred)) =
        objectText (others.map (Field.text registry deferred)) ↔
      fields.map (Field.shape registry) = others.map (Field.shape registry) := by
  constructor
  · intro same
    cases fields with
    | nil =>
        cases others with
        | nil => rfl
        | cons other more =>
            rw [List.map_cons, objectText_of_ne_nil (List.cons_ne_nil _ _)] at same
            cases List.append_cancel_left same
    | cons field rest =>
        cases others with
        | nil =>
            rw [List.map_cons, objectText_of_ne_nil (List.cons_ne_nil _ _)] at same
            cases List.append_cancel_left same
        | cons other more =>
            rw [objectText_of_ne_nil (by simp), objectText_of_ne_nil (by simp)] at same
            exact objectLines_append_inj identifiers plain otherPlain usable otherUsable
              (List.append_cancel_left same)
  · intro same
    rw [map_text_eq_of_shapes plain otherPlain usable otherUsable same]

/-- The body of an object shows the shapes of its fields and nothing else of them. -/
theorem objectBody_eq_iff_shapes {registry : Registry} {deferred : Bool}
    {owner otherOwner body otherBody : Text} {fields others : List Field}
    (identifiers : registry.HasIdentifiers)
    (plain : ∀ field ∈ fields, field.IsPlain) (otherPlain : ∀ field ∈ others, field.IsPlain)
    (built : objectBody registry deferred owner fields = .ok body)
    (otherBuilt : objectBody registry deferred otherOwner others = .ok otherBody) :
    body = otherBody ↔ fields.map (Field.shape registry) = others.map (Field.shape registry) := by
  obtain ⟨usable, rfl⟩ := objectBody_eq_ok_iff.mp built
  obtain ⟨otherUsable, rfl⟩ := objectBody_eq_ok_iff.mp otherBuilt
  exact objectText_eq_iff_shapes identifiers plain otherPlain usable otherUsable

/-- A registry in which a constructor is called like the one of unions. -/
def linkRegistry : Registry := Registry.default.register "Link" "union"

def linkField : Field where
  name := "target"
  candidates := [{ name := "Link" }]

def ownerField : Field where
  name := "target"
  candidates := [{ name := "Link" }, { name := "Null" },
    { name := "User", location := Location.inputObject, isList := true }]
  nullable := true

def linkBody : Text := "z.object(\x7b\n  target: z.union(),\n\x7d).strict()"

def ownerBody : Text :=
  "z.object(\x7b\n  target: z.union([ z.union(),User.array(), ]).nullable(),\n\x7d).strict()"

theorem isPlain_linkField : linkField.IsPlain where
  validator := rfl
  customErrors := rfl
  name := ⟨'t', "arget".toList, rfl, by decide, List.all_eq_true.mp (by decide)⟩
  references := by
    rw [show linkField.nonNullCandidates = [{ name := "Link" }] from rfl,
      List.forall_mem_singleton]
    exact fun place => absurd place (by decide)

theorem isPlain_ownerField : ownerField.IsPlain where
  validator := rfl
  customErrors := rfl
  name := ⟨'t', "arget".toList, rfl, by decide, List.all_eq_true.mp (by decide)⟩
  references := by
    rw [show ownerField.nonNullCandidates = [{ name := "Link" },
        { name := "User", location := Location.inputObject, isList := true }] from rfl,
      List.forall_mem_cons, List.forall_mem_singleton]
    exact ⟨fun place => absurd place (by decide),
      fun _ => ⟨⟨'U', "ser".toList, rfl, by decide, List.all_eq_true.mp (by decide)⟩, by decide⟩⟩

theorem objectBody_linkField_ne_ownerField :
    objectBody linkRegistry false "Query" [linkField] = .ok linkBody ∧
    objectBody linkRegistry false "Query" [ownerField] = .ok ownerBody ∧
    (linkBody = ownerBody ↔
      [linkField].map (Field.shape linkRegistry) = [ownerField].map (Field.shape linkRegistry)) := by
  have linkBuilt : objectBody linkRegistry false "Query" [linkField] = .ok linkBody :=
    objectBody_eq_ok_iff.mpr ⟨by decide +kernel, by decide +kernel⟩
  have ownerBuilt : objectBody linkRegistry false "Query" [ownerField] = .ok ownerBody :=
    objectBody_eq_ok_iff.mpr ⟨by decide +kernel, by decide +kernel⟩
  have identifiers : linkRegistry.HasIdentifiers :=
    Registry.hasIdentifiers_default.register (by decide) _
  have linkPlain : ∀ field ∈ [linkField], field.IsPlain :=
    List.forall_mem_singleton.mpr isPlain_linkField
  have ownerPlain : ∀ field ∈ [ownerField], field.IsPlain :=
    List.forall_mem_singleton.mpr isPlain_ownerField
  exact ⟨linkBuilt, ownerBuilt,
    objectBody_eq_iff_shapes identifiers linkPlain ownerPlain linkBuilt ownerBuilt⟩

end ZodValidators
