import Mathlib.Data.List.Infix
import Mathlib.Data.List.TakeWhile
import ZodValidators.Proofs.UniqueReading

/-!
# Deferred and direct references

The bodies of input types and of arguments differ in laziness alone. Building one of them fails
exactly as building the other does. Where all names are words and no custom text stands in a body,
the direct text is read off the deferred one: every occurrence of a deferred reference is replaced
by its name, and there is one for each candidate that is a reference.

The proof rests on the arrow of a deferred reference. It stands nowhere else, so the distance to the
next arrow says whether an occurrence starts at a place.
-/

set_option autoImplicit false

namespace ZodValidators

namespace Text

/-! ## Occurrences -/

def lazyOpening : Text := "z.lazy(() => "

/-- The name in the deferred reference that the text starts with, and the text behind it. -/
def lazyReference? (text : Text) : Option (Text × Text) :=
  (lazyOpening.isPrefixOf? text).bind fun behind =>
    match behind.takeWhile CodePoint.isWordPart, behind.dropWhile CodePoint.isWordPart with
    | first :: name, .char ')' :: rest => some (first :: name, rest)
    | _, _ => none

theorem lazyReference?_eq_some_iff {text name rest : Text} :
    text.lazyReference? = some (name, rest) ↔
      name.IsIdentifier ∧ text = lazyOpening ++ (name ++ (")" ++ rest)) := by
  constructor
  · intro found
    obtain ⟨behind, opened, closed⟩ := Option.bind_eq_some_iff.mp found
    split at closed
    · next first word _ others front back =>
        cases closed
        refine ⟨⟨List.cons_ne_nil _ _, ?_⟩, ?_⟩
        · rw [← front]
          exact fun codePoint member => List.mem_takeWhile_imp member
        · have split := List.takeWhile_append_dropWhile (p := CodePoint.isWordPart) (l := behind)
          rw [← List.isPrefixOf?_eq_some_iff_append_eq.mp opened, ← split, front, back]
          rfl
    · cases closed
  · rintro ⟨⟨filled, word⟩, rfl⟩
    obtain ⟨first, others, rfl⟩ := List.exists_cons_of_ne_nil filled
    have front : ((first :: others) ++ ((")" : Text) ++ rest)).takeWhile CodePoint.isWordPart =
        first :: others := by
      rw [List.takeWhile_append_of_pos word]
      exact List.append_nil _
    have back : ((first :: others) ++ ((")" : Text) ++ rest)).dropWhile CodePoint.isWordPart =
        .char ')' :: rest := by
      rw [List.dropWhile_append_of_pos word]
      rfl
    rw [lazyReference?, List.isPrefixOf?_eq_some_iff_append_eq.mpr rfl, Option.bind_some, front,
      back]
    rfl

theorem length_lt_of_lazyReference? {text name rest : Text}
    (found : text.lazyReference? = some (name, rest)) : rest.length < text.length := by
  obtain ⟨_, rfl⟩ := lazyReference?_eq_some_iff.mp found
  simp only [List.length_append]
  have opening : 0 < lazyOpening.length := by decide
  omega

/-- The text with the name in place of every deferred reference, from left to right. -/
def resolveLazy (text : Text) : Text :=
  match text with
  | [] => []
  | first :: rest =>
    match _found : lazyReference? (first :: rest) with
    | some (name, behind) => name ++ resolveLazy behind
    | none => first :: resolveLazy rest
termination_by text.length
decreasing_by
  · exact length_lt_of_lazyReference? _found
  · exact Nat.lt_succ_self rest.length

/-- The names in the deferred references that start anywhere in the text. -/
def lazyNames (text : Text) : List Text :=
  text.tails.filterMap fun behind => (lazyReference? behind).map Prod.fst

theorem resolveLazy_of_eq_some {text name rest : Text}
    (found : text.lazyReference? = some (name, rest)) :
    text.resolveLazy = name ++ rest.resolveLazy := by
  cases text with
  | nil => cases found
  | cons first others =>
      rw [resolveLazy]
      split
      · next other behind reading =>
          rw [found] at reading
          cases reading
          rfl
      · next missing => cases found.symm.trans missing

theorem resolveLazy_cons_of_eq_none {first : CodePoint} {rest : Text}
    (missing : lazyReference? (first :: rest) = none) :
    resolveLazy (first :: rest) = first :: resolveLazy rest := by
  rw [resolveLazy]
  split
  · next found => cases missing.symm.trans found
  · rfl

theorem lazyNames_of_eq_some {first : CodePoint} {text name rest : Text}
    (found : lazyReference? (first :: text) = some (name, rest)) :
    lazyNames (first :: text) = name :: lazyNames text := by
  rw [lazyNames, List.tails_cons, List.filterMap_cons_some (by rw [found]; rfl), lazyNames]

theorem lazyNames_cons_of_eq_none {first : CodePoint} {rest : Text}
    (missing : lazyReference? (first :: rest) = none) :
    lazyNames (first :: rest) = lazyNames rest := by
  rw [lazyNames, List.tails_cons, List.filterMap_cons_none (by rw [missing]; rfl), lazyNames]

/-! ## Arrows -/

def arrowTip : CodePoint := .char '>'

theorem IsIdentifier.not_mem_arrowTip {text : Text} (identifier : text.IsIdentifier) :
    arrowTip ∉ text := by
  intro member
  exact absurd (identifier.2 arrowTip member) (by decide)

/-- A deferred reference does not start where the next arrow is too near. -/
theorem lazyReference?_eq_none_of_near {text : Text} (near : arrowTip ∈ text.take 11) :
    text.lazyReference? = none := by
  cases found : text.lazyReference? with
  | none => rfl
  | some reference =>
      obtain ⟨_, starts⟩ := lazyReference?_eq_some_iff.mp found
      rw [starts, List.take_append_of_le_length (by decide)] at near
      exact absurd near (by decide)

/-- A deferred reference does not start where the next arrow is too far. -/
theorem lazyReference?_cons_eq_none_of_far {first : CodePoint} {rest : Text}
    (plain : first ≠ arrowTip) (far : arrowTip ∉ rest.take 11) :
    lazyReference? (first :: rest) = none := by
  cases found : lazyReference? (first :: rest) with
  | none => rfl
  | some reference =>
      obtain ⟨_, starts⟩ := lazyReference?_eq_some_iff.mp found
      have tip : arrowTip ∈ (first :: rest).take 12 := by
        rw [starts, List.take_append_of_le_length (by decide)]
        decide
      rcases List.mem_cons.mp tip with same | later
      · exact absurd same.symm plain
      · exact absurd later far

theorem not_mem_take_append {text rest : Text} (plain : arrowTip ∉ text)
    (far : arrowTip ∉ rest.take 11) : arrowTip ∉ (text ++ rest).take 11 := by
  rw [List.take_append, List.mem_append]
  rintro (inText | inRest)
  · exact plain (List.mem_of_mem_take inText)
  · exact far (List.take_subset_take_left rest (Nat.sub_le 11 text.length) inRest)

theorem lazyNames_append {text rest : Text} (plain : arrowTip ∉ text)
    (far : arrowTip ∉ rest.take 11) : lazyNames (text ++ rest) = lazyNames rest := by
  induction text with
  | nil => rfl
  | cons first others ih =>
      rw [List.mem_cons, not_or] at plain
      have missing := lazyReference?_cons_eq_none_of_far (Ne.symm plain.1)
        (not_mem_take_append plain.2 far)
      rw [List.cons_append, lazyNames_cons_of_eq_none missing, ih plain.2]

theorem lazyNames_append_arrowTip {text rest : Text} (short : text.length ≤ 10) :
    lazyNames (text ++ arrowTip :: rest) = lazyNames rest := by
  induction text with
  | nil => exact lazyNames_cons_of_eq_none (lazyReference?_eq_none_of_near List.mem_cons_self)
  | cons first others ih =>
      rw [List.length_cons] at short
      have near : arrowTip ∈ (first :: (others ++ arrowTip :: rest)).take 11 := by
        rw [← List.cons_append, List.take_append, List.length_cons, List.mem_append]
        obtain ⟨left, count⟩ := Nat.exists_eq_succ_of_ne_zero
          (n := 11 - (others.length + 1)) (by omega)
        rw [count, List.take_succ_cons]
        exact .inr List.mem_cons_self
      rw [List.cons_append, lazyNames_cons_of_eq_none (lazyReference?_eq_none_of_near near),
        ih (by omega)]

theorem lazyNames_lazyOpening {name rest : Text} (identifier : name.IsIdentifier)
    (far : arrowTip ∉ rest.take 11) :
    lazyNames (lazyOpening ++ (name ++ (")" ++ rest))) = name :: lazyNames rest := by
  have opening (behind : Text) : lazyOpening ++ behind =
      .char 'z' :: ((".lazy(() =" : Text) ++ arrowTip :: ((" " : Text) ++ behind)) := rfl
  have found : lazyReference? (lazyOpening ++ (name ++ (")" ++ rest))) = some (name, rest) :=
    lazyReference?_eq_some_iff.mpr ⟨identifier, rfl⟩
  rw [opening] at found ⊢
  have closing : arrowTip ∉ (" " : Text) ++ (name ++ ")") := by
    simp only [List.mem_append, not_or]
    exact ⟨by decide, identifier.not_mem_arrowTip, by decide⟩
  rw [lazyNames_of_eq_some found, lazyNames_append_arrowTip (by decide)]
  have regrouped : (" " : Text) ++ (name ++ (")" ++ rest)) = (" " ++ (name ++ ")")) ++ rest := by
    simp only [List.append_assoc]
  rw [regrouped, lazyNames_append closing far]

/-! ## Texts that differ in laziness -/

/-- The texts are the same, except that the references to the names are deferred in the first. -/
inductive Defers : List Text → Text → Text → Prop where
  | nil : Defers [] [] []
  | cons {codePoint : CodePoint} {names : List Text} {deferred direct : Text} :
      codePoint ≠ arrowTip → Defers names deferred direct →
      Defers names (codePoint :: deferred) (codePoint :: direct)
  | reference {name : Text} {names : List Text} {deferred direct : Text} :
      name.IsIdentifier → Defers names deferred direct →
      Defers (name :: names) (lazyOpening ++ (name ++ (")" ++ deferred))) (name ++ direct)

namespace Defers

variable {names : List Text} {deferred direct : Text}

theorem not_mem_take (pair : Defers names deferred direct) : arrowTip ∉ deferred.take 11 := by
  induction pair with
  | nil => exact List.not_mem_nil
  | cons plain _ ih =>
      intro member
      rcases List.mem_cons.mp member with same | later
      · exact plain same.symm
      · exact ih (List.take_subset_take_left _ (Nat.le_succ 10) later)
  | reference _ _ _ =>
      rw [List.take_append_of_le_length (by decide)]
      decide

theorem resolveLazy_eq (pair : Defers names deferred direct) : deferred.resolveLazy = direct := by
  induction pair with
  | nil => rw [resolveLazy]
  | cons plain following ih =>
      rw [resolveLazy_cons_of_eq_none
        (lazyReference?_cons_eq_none_of_far plain following.not_mem_take), ih]
  | reference identifier _ ih =>
      rw [resolveLazy_of_eq_some (lazyReference?_eq_some_iff.mpr ⟨identifier, rfl⟩), ih]

theorem lazyNames_eq (pair : Defers names deferred direct) : deferred.lazyNames = names := by
  induction pair with
  | nil => rfl
  | cons plain following ih =>
      rw [lazyNames_cons_of_eq_none
        (lazyReference?_cons_eq_none_of_far plain following.not_mem_take), ih]
  | reference identifier following ih =>
      rw [lazyNames_lazyOpening identifier following.not_mem_take, ih]

theorem not_mem_direct (pair : Defers names deferred direct) : arrowTip ∉ direct := by
  induction pair with
  | nil => exact List.not_mem_nil
  | cons plain _ ih =>
      rw [List.mem_cons, not_or]
      exact ⟨Ne.symm plain, ih⟩
  | reference identifier _ ih =>
      rw [List.mem_append, not_or]
      exact ⟨identifier.not_mem_arrowTip, ih⟩

theorem append {others : List Text} {otherDeferred otherDirect : Text}
    (pair : Defers names deferred direct) (other : Defers others otherDeferred otherDirect) :
    Defers (names ++ others) (deferred ++ otherDeferred) (direct ++ otherDirect) := by
  induction pair with
  | nil => exact other
  | cons plain _ ih => exact .cons plain ih
  | reference identifier _ ih =>
      simp only [List.append_assoc, List.cons_append]
      exact .reference identifier ih

theorem fixed {text : Text} (plain : arrowTip ∉ text) : Defers [] text text := by
  induction text with
  | nil => exact .nil
  | cons first rest ih =>
      rw [List.mem_cons, not_or] at plain
      exact .cons (Ne.symm plain.1) (ih plain.2)

theorem append_fixed {text : Text} (pair : Defers names deferred direct)
    (plain : arrowTip ∉ text) : Defers names (deferred ++ text) (direct ++ text) := by
  have following := pair.append (fixed plain)
  rwa [List.append_nil] at following

theorem flatMap {ι : Type} {items : List ι} {mentions : ι → List Text} {left right : ι → Text}
    (pairs : ∀ item ∈ items, Defers (mentions item) (left item) (right item)) :
    Defers (items.flatMap mentions) (items.flatMap left) (items.flatMap right) := by
  induction items with
  | nil => exact .nil
  | cons item rest ih =>
      rw [List.forall_mem_cons] at pairs
      simp only [List.flatMap_cons]
      exact pairs.1.append (ih pairs.2)

end Defers

end Text

/-! ## Bodies -/

theorem Expression.not_mem_modifiers (isList isOptional isNullable : Bool) :
    Text.arrowTip ∉ Text.ofString (modifiers isList isOptional isNullable) := by
  cases isList <;> cases isOptional <;> cases isNullable <;> decide

def TypeRef.reference? (candidate : TypeRef) : Option Text :=
  if TypeKind.isReferencePlace candidate.location then some candidate.name else none

namespace Field

def references (field : Field) : List Text := field.nonNullCandidates.filterMap TypeRef.reference?

/-- No text of its own stands in the field, and all names that show in it are words. Unlike in a
plain field, a reference may have the name of the zod module. -/
structure HasWords (registry : Registry) (field : Field) : Prop where
  validator : field.validator.isEmpty = true
  customErrors : field.customErrors.isEmpty = true
  name : field.name.IsIdentifier
  references : ∀ candidate ∈ field.nonNullCandidates,
    TypeKind.isReferencePlace candidate.location = true → candidate.name.IsIdentifier
  zodTypes : ∀ candidate ∈ field.nonNullCandidates,
    ¬ TypeKind.isReferencePlace candidate.location = true →
      ∀ zodType ∈ registry.zodType? candidate.name, zodType.IsIdentifier

variable {registry : Registry} {field : Field}

theorem defers_rendering (words : field.HasWords registry) {candidate : TypeRef}
    (member : candidate ∈ field.nonNullCandidates) :
    Text.Defers candidate.reference?.toList ((candidate.rendering registry true).text field)
      ((candidate.rendering registry false).text field) := by
  by_cases place : TypeKind.isReferencePlace candidate.location = true
  · have identifier := words.references candidate member place
    have pair := Text.Defers.reference identifier .nil
    rw [TypeRef.rendering_of_isReferencePlace place, TypeRef.rendering_of_isReferencePlace place,
      TypeRef.reference?, if_pos place]
    rw [List.append_nil, List.append_nil, ← List.append_assoc] at pair
    exact pair
  · have unvalidated : field.validator.inserted = [] := by simp [Constant.inserted, words.validator]
    have unmentioned : field.customErrors.inserted = [] := by
      simp [Constant.inserted, words.customErrors]
    have zodType : Text.arrowTip ∉ (registry.zodType? candidate.name).getD [] := by
      cases registered : registry.zodType? candidate.name with
      | none => exact List.not_mem_nil
      | some zodType =>
          exact (words.zodTypes candidate member place zodType registered).not_mem_arrowTip
    rw [TypeRef.rendering_of_not_isReferencePlace place,
      TypeRef.rendering_of_not_isReferencePlace place, TypeRef.reference?, if_neg place]
    apply Text.Defers.fixed
    simp only [Rendering.text, unvalidated, unmentioned, List.mem_append, not_or]
    exact ⟨⟨⟨⟨⟨by decide, zodType⟩, by decide⟩, List.not_mem_nil⟩, by decide⟩, List.not_mem_nil⟩

theorem defers_candidateText (words : field.HasWords registry) (isOptional isNullable : Bool)
    {candidate : TypeRef} (member : candidate ∈ field.nonNullCandidates) :
    Text.Defers candidate.reference?.toList
      (field.candidateText registry true isOptional isNullable candidate)
      (field.candidateText registry false isOptional isNullable candidate) :=
  ((defers_rendering words member).append_fixed
    (Expression.not_mem_modifiers _ _ _)).append_fixed (by decide)

theorem defers_expression (words : field.HasWords registry) :
    Text.Defers field.references (field.expression registry true)
      (field.expression registry false) := by
  have union : Text.Defers field.references
      (Expression.union (field.nonNullCandidates.map
        (field.candidateText registry true false false)) (!field.required) field.nullable)
      (Expression.union (field.nonNullCandidates.map
        (field.candidateText registry false false false)) (!field.required) field.nullable) := by
    have branches : Text.Defers
        (field.nonNullCandidates.flatMap fun candidate => candidate.reference?.toList)
        (field.nonNullCandidates.flatMap (field.candidateText registry true false false))
        (field.nonNullCandidates.flatMap (field.candidateText registry false false false)) :=
      Text.Defers.flatMap fun candidate member => defers_candidateText words false false member
    have opening : Text.arrowTip ∉ ("z.union([ " : Text) := by decide
    rw [references, List.filterMap_eq_flatMap_toList]
    exact ((((Text.Defers.fixed opening).append branches).append_fixed (by decide)).append_fixed
      (Expression.not_mem_modifiers _ _ _)).append_fixed (by decide)
  rw [expression, expression]
  cases candidates : field.nonNullCandidates with
  | nil => rwa [candidates] at union
  | cons first others =>
      cases others with
      | nil =>
          have mentioned : field.references = first.reference?.toList := by
            rw [references, candidates, List.filterMap_eq_flatMap_toList, List.flatMap_singleton]
          rw [mentioned]
          exact defers_candidateText words field.optional field.nullable
            (candidates ▸ List.mem_singleton_self first)
      | cons second rest => rwa [candidates] at union

theorem defers_text (words : field.HasWords registry) :
    Text.Defers field.references (field.text registry true) (field.text registry false) := by
  have label : Text.arrowTip ∉ ("  " : Text) ++ field.name ++ ": " := by
    simp only [List.mem_append, not_or]
    exact ⟨⟨by decide, words.name.not_mem_arrowTip⟩, by decide⟩
  exact (Text.Defers.fixed label).append (defers_expression words)

end Field

theorem defers_objectText {registry : Registry} {fields : List Field}
    (words : ∀ field ∈ fields, field.HasWords registry) :
    Text.Defers (fields.flatMap Field.references)
      (objectText (fields.map (Field.text registry true)))
      (objectText (fields.map (Field.text registry false))) := by
  cases fields with
  | nil =>
      have empty : Text.arrowTip ∉ objectText [] := by decide
      exact .fixed empty
  | cons first rest =>
      have lineEnd : Text.arrowTip ∉ ("\n" : Text) := by decide
      have lines : Text.Defers ((first :: rest).flatMap Field.references)
          (objectLines ((first :: rest).map (Field.text registry true)))
          (objectLines ((first :: rest).map (Field.text registry false))) := by
        rw [objectLines, objectLines, List.flatMap_map, List.flatMap_map]
        exact .flatMap fun field member =>
          (Text.Defers.fixed lineEnd).append (Field.defers_text (words field member))
      have opening : Text.arrowTip ∉ objectOpening := by decide
      rw [objectText_of_ne_nil (by simp), objectText_of_ne_nil (by simp)]
      exact (Text.Defers.fixed opening).append (lines.append_fixed (by decide))

/-- Laziness neither decides whether a body is built nor shows anywhere but in its references. -/
theorem objectBody_laziness (registry : Registry) (owner : Text) (fields : List Field) :
    (∃ failure, objectBody registry true owner fields = .error failure ∧
      objectBody registry false owner fields = .error failure) ∨
    ∃ deferred direct, objectBody registry true owner fields = .ok deferred ∧
      objectBody registry false owner fields = .ok direct ∧
      ((∀ field ∈ fields, field.HasWords registry) →
        direct = deferred.resolveLazy ∧
        deferred.lazyNames = fields.flatMap Field.references ∧
        ¬ ("z.lazy(() =>" : Text) <:+: direct) := by
  have failures : failureOf? (objectBody registry true owner fields) =
      failureOf? (objectBody registry false owner fields) := by
    rw [failureOf?_objectBody, failureOf?_objectBody]
  cases built : objectBody registry true owner fields with
  | error failure =>
      rw [built, failureOf?_error] at failures
      exact .inl ⟨failure, rfl, failureOf?_eq_some_iff.mp failures.symm⟩
  | ok deferred =>
      rw [built, failureOf?_ok] at failures
      obtain ⟨direct, directBuilt⟩ := failureOf?_eq_none_iff.mp failures.symm
      refine .inr ⟨deferred, direct, rfl, directBuilt, ?_⟩
      intro words
      have pair := defers_objectText words
      rw [← (objectBody_eq_ok_iff.mp built).2, ← (objectBody_eq_ok_iff.mp directBuilt).2] at pair
      refine ⟨pair.resolveLazy_eq.symm, pair.lazyNames_eq, ?_⟩
      intro occurs
      exact pair.not_mem_direct (occurs.subset (by decide))

/-- A registry in which a constructor is called like the one of deferred references. -/
def tokenRegistry : Registry := Registry.register ∅ "Token" "lazy"

/-- A field that is a token or a list of an input type with the name of the zod module. -/
def tokenField : Field where
  name := "z"
  candidates := [{ name := "Token" },
    { name := "z", location := Location.inputObject, isList := true }]

def tokenDeferred : Text :=
  "z.object(\x7b\n  z: z.union([ z.lazy(),z.lazy(() => z).array(), ]),\n\x7d).strict()"

def tokenDirect : Text := "z.object(\x7b\n  z: z.union([ z.lazy(),z.array(), ]),\n\x7d).strict()"

theorem hasWords_tokenField : tokenField.HasWords tokenRegistry where
  validator := rfl
  customErrors := rfl
  name := by decide
  references := by decide
  zodTypes := by decide

theorem objectBody_laziness_tokenField :
    (∀ field ∈ [tokenField], field.HasWords tokenRegistry) ∧
    objectBody tokenRegistry true "User" [tokenField] = .ok tokenDeferred ∧
    objectBody tokenRegistry false "User" [tokenField] = .ok tokenDirect ∧
    tokenDirect = tokenDeferred.resolveLazy ∧
    tokenDeferred.lazyNames = [tokenField].flatMap Field.references ∧
    ¬ ("z.lazy(() =>" : Text) <:+: tokenDirect := by
  have words : ∀ field ∈ [tokenField], field.HasWords tokenRegistry :=
    List.forall_mem_singleton.mpr hasWords_tokenField
  have deferredBuilt : objectBody tokenRegistry true "User" [tokenField] = .ok tokenDeferred :=
    objectBody_eq_ok_iff.mpr ⟨by decide +kernel, by decide +kernel⟩
  have directBuilt : objectBody tokenRegistry false "User" [tokenField] = .ok tokenDirect :=
    objectBody_eq_ok_iff.mpr ⟨by decide +kernel, by decide +kernel⟩
  rcases objectBody_laziness tokenRegistry "User" [tokenField] with
    ⟨failure, failed, _⟩ | ⟨deferred, direct, first, second, described⟩
  · cases deferredBuilt.symm.trans failed
  · cases deferredBuilt.symm.trans first
    cases directBuilt.symm.trans second
    exact ⟨words, deferredBuilt, directBuilt, described words⟩

end ZodValidators
