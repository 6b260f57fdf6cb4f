import ZodValidators.Decimal.Binary64

/-!
# The fewest digits that read back

`shortest` finds the least number of decimal digits that read back as a given positive double, and
of the decimals with so many digits the one nearest to it. `NumberText` says how such digits are
laid out, and `Binary64.text` is the text of a double in the layout `plain`.
-/

set_option autoImplicit false

namespace ZodValidators.Decimal

structure Digits where
  digits : Nat
  exponent : Int
deriving DecidableEq, Repr

/-- The numbers that round to a positive double, all in quarters of its last place: the least, the
double itself and the greatest. The ends belong to it when its significand is even. -/
structure Neighbourhood where
  least : Nat
  value : Nat
  greatest : Nat
  closed : Bool
  /-- A quarter of the last place is `2 ^ exponent`. -/
  exponent : Int

/-- The neighbourhood of a double. At a power of two the next smaller double is only half as far. -/
def neighbourhood (significand : Nat) (exponent : Int) : Neighbourhood :=
  let nearer := significand = Binary64.leastNormal && Binary64.leastExponent < exponent
  { least := 4 * significand - (if nearer then 1 else 2)
    value := 4 * significand
    greatest := 4 * significand + 2
    closed := significand % 2 = 0
    exponent := exponent - 2 }

/-- Factors that bring multiples of `2 ^ binary` and of `10 ^ decimal` to a common unit. -/
def commonUnit (binary decimal : Int) : Nat × Nat :=
  (Nat.pow 2 binary.toNat * Nat.pow 10 (-decimal).toNat,
    Nat.pow 10 decimal.toNat * Nat.pow 2 (-binary).toNat)

/-- The multiple of `10 ^ exponent` nearest to the value that lies in the neighbourhood, if the
nearest one below or above does. A tie goes to the even multiple. -/
def Neighbourhood.onGrid? (range : Neighbourhood) (exponent : Int) : Option Nat :=
  let (scale, step) := commonUnit range.exponent exponent
  let value := range.value * scale
  let below := value / step
  let above := below + 1
  let covers := fun multiple : Nat =>
    let point := multiple * step
    if range.closed then range.least * scale ≤ point && point ≤ range.greatest * scale
    else range.least * scale < point && point < range.greatest * scale
  let toBelow := value - below * step
  let toAbove := above * step - value
  match covers below, covers above with
  | true, true =>
    if toBelow < toAbove || (toBelow = toAbove && below % 2 = 0) then some below else some above
  | true, false => some below
  | false, true => some above
  | false, false => none

/-- The position of the first digit: the greatest `place` with `10 ^ place` at most the value,
found by counting up from below. -/
def Neighbourhood.leadingPlace (range : Neighbourhood) : Int :=
  let guess : Int := ((range.value.log2 : Int) + range.exponent) * 30103 / 100000 - 1
  let reaches := fun place : Int =>
    let (scale, step) := commonUnit range.exponent place
    step ≤ range.value * scale
  if reaches (guess + 2) then guess + 2 else if reaches (guess + 1) then guess + 1 else guess

/-- The first grid with a hit, from that of `18 - remaining` digits on. -/
def Neighbourhood.search (range : Neighbourhood) (place : Int) : (remaining : Nat) → Digits
  | 0 => ⟨0, 0⟩
  | remaining + 1 =>
    let exponent := place - (16 - remaining : Int)
    match range.onGrid? exponent with
    | some digits => ⟨digits, exponent⟩
    | none => range.search place remaining

/-- The shortest decimal that reads back as a positive double; seventeen digits always do. -/
def shortest (significand : Nat) (exponent : Int) : Digits :=
  let range := neighbourhood significand exponent
  range.search range.leadingPlace 17

structure NumberText where
  /-- Positions of the first digit that are written without an exponent. -/
  leastPlace : Int
  greatestPlace : Int
  /-- What is written after a whole number. -/
  whole : String
  /-- The fewest digits of an exponent. -/
  exponentWidth : Nat
  infinity : String
  notANumber : String

/-- Without an exponent from 0.0001 up to below 10^16, whole numbers with a zero after the point,
exponents with a sign and at least two digits. -/
def NumberText.plain : NumberText :=
  { leastPlace := -4, greatestPlace := 15, whole := ".0", exponentWidth := 2,
    infinity := "inf", notANumber := "nan" }

def stripZeros (digits : List Char) : List Char :=
  (digits.reverse.dropWhile (· = '0')).reverse

def NumberText.layOut (layout : NumberText) (number : Digits) : String :=
  let all := Nat.toDigits 10 number.digits
  let place : Int := number.exponent + all.length - 1
  let digits := stripZeros all
  if layout.leastPlace ≤ place ∧ place ≤ layout.greatestPlace then
    if place < 0 then
      String.ofList ('0' :: '.' :: List.replicate ((-place).toNat - 1) '0' ++ digits)
    else
      let count := place.toNat + 1
      let front := digits.take count
      let front := front ++ List.replicate (count - front.length) '0'
      match digits.drop count with
      | [] => String.ofList front ++ layout.whole
      | back => String.ofList (front ++ '.' :: back)
  else
    let shown := Nat.toDigits 10 place.natAbs
    let fraction := match digits.drop 1 with
      | [] => []
      | back => '.' :: back
    String.ofList (digits.take 1 ++ fraction ++ ['e', if place < 0 then '-' else '+'] ++
      List.replicate (layout.exponentWidth - shown.length) '0' ++ shown)

def Binary64.textIn (layout : NumberText) : Binary64 → String
  | .notANumber => layout.notANumber
  | .infinite negative => (if negative then "-" else "") ++ layout.infinity
  | .finite negative significand exponent =>
    (if negative then "-" else "") ++
      if significand = 0 then "0" ++ layout.whole else layout.layOut (shortest significand exponent)

def Binary64.text (number : Binary64) : String := number.textIn .plain

end ZodValidators.Decimal
