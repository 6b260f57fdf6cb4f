/-!
# Double precision numbers

A double is a sign, a significand and a power of two, an infinity, or not a number. `ofRatio` and
`ofDecimal` give the double nearest to an exact number; of two that are equally near, the one with
the even significand.
-/

set_option autoImplicit false

namespace ZodValidators.Decimal

/-- A double precision number. A finite one is `significand * 2 ^ exponent` with its sign. -/
inductive Binary64 where
  | finite (negative : Bool) (significand : Nat) (exponent : Int)
  | infinite (negative : Bool)
  | notANumber
deriving DecidableEq, Repr

namespace Binary64

def leastExponent : Int := -1074

def greatestExponent : Int := 971

def leastNormal : Nat := 0x10000000000000

/-- A quotient rounded to the nearest number, a tie to the even one. -/
def roundedQuotient (numerator denominator : Nat) : Nat :=
  let quotient := numerator / denominator
  let twice := 2 * (numerator % denominator)
  if twice < denominator then quotient
  else if denominator < twice then quotient + 1
  else quotient + quotient % 2

def significandAt (numerator denominator : Nat) (exponent : Int) : Nat :=
  if exponent < 0 then roundedQuotient (numerator * Nat.pow 2 (-exponent).toNat) denominator
  else roundedQuotient numerator (denominator * Nat.pow 2 exponent.toNat)

/-- The exponent at which the quotient of two positive numbers has a significand of 53 bits, or the
least exponent if that is greater. -/
def exponentOf (numerator denominator : Nat) : Int :=
  let guess : Int := (numerator.log2 : Int) - denominator.log2 - 52
  let reaches := if guess < 0 then
      denominator * leastNormal ≤ numerator * Nat.pow 2 (-guess).toNat
    else denominator * Nat.pow 2 guess.toNat * leastNormal ≤ numerator
  max leastExponent (if reaches then guess else guess - 1)

def ofRatio (negative : Bool) (numerator denominator : Nat) : Binary64 :=
  if numerator = 0 then .finite negative 0 leastExponent
  else
    let exponent := exponentOf numerator denominator
    let significand := significandAt numerator denominator exponent
    let (significand, exponent) :=
      if significand = 2 * leastNormal then (leastNormal, exponent + 1) else (significand, exponent)
    if greatestExponent < exponent then .infinite negative
    else .finite negative significand exponent

/-- The double nearest to `digits * 10 ^ exponent`. Numbers far outside the range of doubles are
settled without computing the power: where three binary digits are counted as a decimal one, no
decimal digit is missed. -/
def ofDecimal (negative : Bool) (digits : Nat) (exponent : Int) : Binary64 :=
  if digits = 0 then .finite negative 0 leastExponent
  else if 400 < exponent then .infinite negative
  else if exponent + (digits.log2 / 3 + 1 : Nat) < -400 then .finite negative 0 leastExponent
  else if exponent < 0 then ofRatio negative digits (Nat.pow 10 (-exponent).toNat)
  else ofRatio negative (digits * Nat.pow 10 exponent.toNat) 1

def isZero : Binary64 → Bool
  | .finite _ significand _ => significand = 0
  | _ => false

def integer? : Binary64 → Option Int
  | .finite negative significand exponent =>
    let signed : Nat → Int := fun value => if negative then -(value : Int) else value
    if exponent < 0 then
      let unit := Nat.pow 2 (-exponent).toNat
      if significand % unit = 0 then some (signed (significand / unit)) else none
    else some (signed (significand * Nat.pow 2 exponent.toNat))
  | _ => none

end Binary64

end ZodValidators.Decimal
