import ZodValidators.Text.Quoted

/-!
# Suggestions for misspelled names

A name that is not known may be a misspelling of one that is. `commonCount` tells how much two
spellings have in common: the longest stretch of characters that stands in both, and what is common
before it and behind it. They are alike when that is at least three fifths of both.
-/

set_option autoImplicit false

namespace ZodValidators.CommandLine

open ZodValidators.Text

/-- A stretch of equal characters in two lists: where it starts in both, and its length. -/
structure Stretch where
  left : Nat
  right : Nat
  length : Nat
deriving DecidableEq, Repr

def sharedFront : List Char → List Char → Nat
  | first :: rest, second :: others =>
    if first = second then sharedFront rest others + 1 else 0
  | _, _ => 0

/-- The stretches that start where `left` does, at position `i`, and anywhere in the other list,
whose first position is `j`. -/
def stretchesAt (left : List Char) (i j : Nat) : (right : List Char) → List Stretch
  | [] => []
  | first :: rest =>
    ⟨i, j, sharedFront left (first :: rest)⟩ :: stretchesAt left i (j + 1) rest

def stretchesFrom (i : Nat) (right : List Char) : (left : List Char) → List Stretch
  | [] => []
  | first :: rest => stretchesAt (first :: rest) i 0 right ++ stretchesFrom (i + 1) right rest

def Stretch.longer (former latter : Stretch) : Stretch :=
  if former.length < latter.length then latter else former

/-- The longest stretch of two lists. Of several it is the one that starts first in the left list,
and of those the one that starts first in the right list. -/
def longestStretch (left right : List Char) : Stretch :=
  (stretchesFrom 0 right left).foldl Stretch.longer ⟨0, 0, 0⟩

theorem sharedFront_le (left right : List Char) : sharedFront left right ≤ left.length := by
  fun_induction sharedFront left right with
  | case1 rest _ others ih => exact Nat.succ_le_succ ih
  | case2 => exact Nat.zero_le _
  | case3 => exact Nat.zero_le _

theorem fits_of_mem_stretchesAt {left right : List Char} {i j : Nat} {stretch : Stretch}
    (found : stretch ∈ stretchesAt left i j right) :
    stretch.left + stretch.length ≤ i + left.length := by
  induction right generalizing j with
  | nil => cases found
  | cons first rest ih =>
      rcases List.mem_cons.mp found with rfl | found
      · exact Nat.add_le_add_left (sharedFront_le left (first :: rest)) i
      · exact ih found

theorem fits_of_mem_stretchesFrom {left right : List Char} {i : Nat} {stretch : Stretch}
    (found : stretch ∈ stretchesFrom i right left) :
    stretch.left + stretch.length ≤ i + left.length := by
  induction left generalizing i with
  | nil => cases found
  | cons first rest ih =>
      rcases List.mem_append.mp found with found | found
      · exact fits_of_mem_stretchesAt found
      · have fits := ih found
        simp only [List.length_cons]
        omega

theorem foldl_longer (stretches : List Stretch) (start : Stretch) :
    stretches.foldl Stretch.longer start = start ∨
      stretches.foldl Stretch.longer start ∈ stretches := by
  induction stretches generalizing start with
  | nil => exact .inl rfl
  | cons first rest ih =>
      rw [List.foldl_cons]
      rcases ih (start.longer first) with same | later
      · rw [same]
        unfold Stretch.longer
        split
        · exact .inr List.mem_cons_self
        · exact .inl rfl
      · exact .inr (List.mem_cons_of_mem _ later)

theorem longestStretch_fits (left right : List Char) :
    (longestStretch left right).left + (longestStretch left right).length ≤ left.length := by
  rcases foldl_longer (stretchesFrom 0 right left) ⟨0, 0, 0⟩ with none | found
  · simp [longestStretch, none]
  · have fits := fits_of_mem_stretchesFrom found
    simpa [longestStretch] using fits

/-- How many characters two lists have in common: those of the longest stretch, those in common
before it, and those in common behind it. -/
def commonCount (left right : List Char) : Nat :=
  match found : longestStretch left right with
  | ⟨_, _, 0⟩ => 0
  | ⟨i, j, length + 1⟩ =>
    commonCount (left.take i) (right.take j) + (length + 1) +
      commonCount (left.drop (i + (length + 1))) (right.drop (j + (length + 1)))
termination_by left.length
decreasing_by
  all_goals
    have fits := longestStretch_fits left right
    rw [found] at fits
    simp only [List.length_take, List.length_drop] at fits ⊢
    omega

/-- How well a known name fits a given one: twice the common characters, and all characters. -/
def likeness (known name : String) : Nat × Nat :=
  (2 * commonCount known.toList name.toList, known.length + name.length)

def isAlike (known name : String) : Bool :=
  let (common, all) := likeness known name
  3 * all ≤ 5 * common

/-- A known name fits a given one at least as well as another known name does. Of two that fit
equally well the one that is later in the alphabet goes first. -/
def fitsBetter (name former latter : String) : Bool :=
  let (common, all) := likeness former name
  let (otherCommon, otherAll) := likeness latter name
  otherCommon * all < common * otherAll ||
    (otherCommon * all = common * otherAll && latter ≤ former)

/-- The known names that may be meant by a given one, the three best ones if there are more, in
alphabetical order. -/
def suggestions (known : List String) (name : String) : List String :=
  let alike := (known.filter fun one => isAlike one name).mergeSort (fitsBetter name)
  (alike.take 3).mergeSort fun former latter => former ≤ latter

def suggestionText : List String → String
  | [] => ""
  | [name] => " Did you mean " ++ quoted name ++ "?"
  | names =>
    let alternatives := names.map fun name : String => quoted name
    " (Did you mean one of: " ++ ", ".intercalate alternatives ++ "?)"

end ZodValidators.CommandLine
