/-!
# What reading leaves

A reader takes something from the front of an input and returns what is left. The proof that this is
shorter is why reading again and again comes to an end. Where several readers work one after the
other, what the last one leaves is left of the whole input.
-/

set_option autoImplicit false

namespace ZodValidators

/-- What is left of an input after something was read from it. -/
abbrev Rest {α : Type} (input : List α) := { rest : List α // rest.length < input.length }

/-- What is left of an input after something was read from it that may be empty. -/
abbrev Remainder {α : Type} (input : List α) := { rest : List α // rest.length ≤ input.length }

variable {α : Type}

namespace Rest

def tail (first : α) (input : List α) : Rest (first :: input) := ⟨input, Nat.lt_succ_self _⟩

def behind {first : α} {input : List α} (rest : Rest input) : Rest (first :: input) :=
  ⟨rest.1, Nat.lt_succ_of_lt rest.2⟩

def weaken {input : List α} (rest : Rest input) : Remainder input :=
  ⟨rest.1, Nat.le_of_lt rest.2⟩

def andThen {input : List α} (first : Rest input) (second : Rest first.1) : Rest input :=
  ⟨second.1, Nat.lt_trans second.2 first.2⟩

def andMaybe {input : List α} (first : Rest input) (second : Remainder first.1) : Rest input :=
  ⟨second.1, Nat.lt_of_le_of_lt second.2 first.2⟩

/-- The items behind those of the longest front that passes a test, which the first item does. -/
def dropWhile (test : α → Bool) (first : α) (input : List α) : Rest (first :: input) :=
  ⟨input.dropWhile test, Nat.lt_succ_of_le (List.dropWhile_sublist test).length_le⟩

end Rest

namespace Remainder

def all (input : List α) : Remainder input := ⟨input, Nat.le_refl _⟩

def andThen {input : List α} (first : Remainder input) (second : Rest first.1) : Rest input :=
  ⟨second.1, Nat.lt_of_lt_of_le second.2 first.2⟩

def andMaybe {input : List α} (first : Remainder input) (second : Remainder first.1) :
    Remainder input :=
  ⟨second.1, Nat.le_trans second.2 first.2⟩

end Remainder

end ZodValidators
