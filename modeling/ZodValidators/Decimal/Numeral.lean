import ZodValidators.Decimal.Binary64

/-!
# Decimal numerals

A numeral has a sign, a whole part without superfluous zeros, and possibly a fraction and an
exponent. `read?` takes the longest numeral in front of an input: a point or an exponent mark
without digits does not belong to it.
-/

set_option autoImplicit false

namespace ZodValidators.Decimal

def digitsValue (digits : List Char) : Nat :=
  digits.foldl (fun value digit => value * 10 + (digit.toNat - '0'.toNat)) 0

structure Numeral where
  negative : Bool
  whole : List Char
  fraction : Option (List Char)
  exponent : Option Int
deriving DecidableEq, Repr

namespace Numeral

def isWhole (numeral : Numeral) : Bool := numeral.fraction.isNone && numeral.exponent.isNone

def integer (numeral : Numeral) : Int :=
  let value : Int := digitsValue numeral.whole
  if numeral.negative then -value else value

def real (numeral : Numeral) : Binary64 :=
  let places := numeral.fraction.getD []
  Binary64.ofDecimal numeral.negative (digitsValue (numeral.whole ++ places))
    (numeral.exponent.getD 0 - places.length)

def fractionOf (input : List Char) : Option (List Char) × List Char :=
  match input with
  | '.' :: digit :: rest =>
    if digit.isDigit then
      (some ((digit :: rest).takeWhile Char.isDigit), (digit :: rest).dropWhile Char.isDigit)
    else (none, input)
  | _ => (none, input)

def signedDigits (negative : Bool) (input : List Char) : Option Int × List Char :=
  let value : Int := digitsValue (input.takeWhile Char.isDigit)
  (some (if negative then -value else value), input.dropWhile Char.isDigit)

def exponentOf (input : List Char) : Option Int × List Char :=
  match input with
  | mark :: rest =>
    if mark = 'e' || mark = 'E' then
      match rest with
      | '+' :: digit :: others =>
        if digit.isDigit then signedDigits false (digit :: others) else (none, input)
      | '-' :: digit :: others =>
        if digit.isDigit then signedDigits true (digit :: others) else (none, input)
      | digit :: others =>
        if digit.isDigit then signedDigits false (digit :: others) else (none, input)
      | [] => (none, input)
    else (none, input)
  | [] => (none, input)

def afterWhole (negative : Bool) (whole rest : List Char) : Numeral × List Char :=
  let (fraction, rest) := fractionOf rest
  let (exponent, rest) := exponentOf rest
  ({ negative, whole, fraction, exponent }, rest)

/-- The numeral without a sign in front of an input. A whole part that starts with a zero ends
behind it. -/
def readUnsigned? (negative : Bool) (input : List Char) : Option (Numeral × List Char) :=
  match input with
  | '0' :: rest => some (afterWhole negative ['0'] rest)
  | digit :: rest =>
    if digit.isDigit then
      some (afterWhole negative ((digit :: rest).takeWhile Char.isDigit)
        ((digit :: rest).dropWhile Char.isDigit))
    else none
  | [] => none

def read? (input : List Char) : Option (Numeral × List Char) :=
  match input with
  | '-' :: rest => readUnsigned? true rest
  | input => readUnsigned? false input

theorem length_dropDigits_le (input : List Char) :
    (input.dropWhile Char.isDigit).length ≤ input.length :=
  (List.dropWhile_sublist Char.isDigit).length_le

theorem length_fractionOf_le (input : List Char) : (fractionOf input).2.length ≤ input.length := by
  unfold fractionOf
  split
  · next digit rest =>
      split
      · have := length_dropDigits_le (digit :: rest)
        simp only [List.length_cons] at *
        omega
      · simp
  · simp

theorem length_signedDigits_le (negative : Bool) (input : List Char) :
    (signedDigits negative input).2.length ≤ input.length :=
  length_dropDigits_le input

theorem length_exponentOf_le (input : List Char) : (exponentOf input).2.length ≤ input.length := by
  unfold exponentOf
  split
  · split
    · split <;> try split
      all_goals
        first
        | exact Nat.le_refl _
        | (refine Nat.le_trans (length_signedDigits_le _ _) ?_
           simp only [List.length_cons]
           omega)
    · exact Nat.le_refl _
  · exact Nat.le_refl _

theorem length_afterWhole_le (negative : Bool) (whole rest : List Char) :
    (afterWhole negative whole rest).2.length ≤ rest.length :=
  Nat.le_trans (length_exponentOf_le (fractionOf rest).2) (length_fractionOf_le rest)

theorem length_lt_of_readUnsigned? {negative : Bool} {input rest : List Char} {numeral : Numeral}
    (found : readUnsigned? negative input = some (numeral, rest)) : rest.length < input.length := by
  unfold readUnsigned? at found
  split at found
  · next others =>
      have shorter := length_afterWhole_le negative ['0'] others
      rw [Option.some.inj found] at shorter
      exact Nat.lt_succ_of_le shorter
  · next digit others _ =>
      split at found
      · next isDigit =>
          have shorter := length_afterWhole_le negative ((digit :: others).takeWhile Char.isDigit)
            ((digit :: others).dropWhile Char.isDigit)
          rw [Option.some.inj found] at shorter
          have dropped := length_dropDigits_le others
          simp only [List.dropWhile_cons, isDigit, ↓reduceIte] at shorter
          simp only [List.length_cons]
          omega
      · cases found
  · cases found

theorem length_lt_of_read? {input rest : List Char} {numeral : Numeral}
    (found : read? input = some (numeral, rest)) : rest.length < input.length := by
  unfold read? at found
  split at found
  · exact Nat.lt_succ_of_lt (length_lt_of_readUnsigned? found)
  · exact length_lt_of_readUnsigned? found

end Numeral

end ZodValidators.Decimal
