import ZodValidators.Gather
import ZodValidators.Table
import ZodValidators.Text.CharacterClass
import ZodValidators.Text.Quoted

/-!
# Scalar mappings

A mapping `NAME=ZODTYPE` on the command line says with which zod constructor a scalar is validated.
Blanks around both sides are dropped after both were seen not to be empty.
-/

set_option autoImplicit false

namespace ZodValidators.CommandLine

def splitAtEquals? : List Char → Option (List Char × List Char)
  | [] => none
  | character :: rest =>
    if character = '=' then some ([], rest)
    else (splitAtEquals? rest).map fun (before, behind) => (character :: before, behind)

theorem splitAtEquals?_eq_some_iff {text before behind : List Char} :
    splitAtEquals? text = some (before, behind) ↔
      text = before ++ '=' :: behind ∧ '=' ∉ before := by
  constructor
  · intro split
    induction text generalizing before with
    | nil => cases split
    | cons character rest ih =>
        unfold splitAtEquals? at split
        by_cases equals : character = '='
        · simp only [equals, if_true, Option.some.injEq, Prod.mk.injEq] at split
          obtain ⟨rfl, rfl⟩ := split
          simp [equals]
        · simp only [equals, if_false, Option.map_eq_some_iff, Prod.mk.injEq] at split
          obtain ⟨⟨front, back⟩, found, rfl, rfl⟩ := split
          obtain ⟨rfl, absent⟩ := ih found
          exact ⟨rfl, by simp [absent, Ne.symm equals]⟩
  · rintro ⟨rfl, absent⟩
    induction before with
    | nil => simp [splitAtEquals?]
    | cons character rest ih =>
        rw [List.mem_cons, not_or] at absent
        rw [List.cons_append, splitAtEquals?, if_neg (Ne.symm absent.1), ih absent.2]
        rfl

/-- The scalar and the zod constructor of a mapping, or the value itself if a side of the equals
sign is empty. -/
def scalarMapping (value : String) : Except String (Text × Text) :=
  match splitAtEquals? value.toList with
  | none => .error value
  | some (name, zodType) =>
    if name = [] || zodType = [] then .error value
    else .ok (Text.ofChars (Text.trim name), Text.ofChars (Text.trim zodType))

/-- The zod constructors of the mapped scalars, the last one of a scalar counting, or the first
value that is no mapping. -/
def scalarMappings (values : List String) : Except String (Table Text) :=
  (gather scalarMapping values).map Table.ofList

def scalarMappingMessage (value : String) : String :=
  "Expected NAME=ZODTYPE, got " ++ Text.quoted value

end ZodValidators.CommandLine
