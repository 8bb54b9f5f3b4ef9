/-!
Floating-point numbers with 53 significant bits. A finite number is held exactly, by its sign, its
significand and the exponent of two that goes with it. A decimal number is rounded to the nearest
of them, and half way between two to the one with an even significand.
-/

namespace Depot

inductive Binary64 where
  /-- The number `significand * 2 ^ exponent`, with its sign. A zero has a sign, too. -/
  | finite (negative : Bool) (significand : Nat) (exponent : Int)
  | infinite (negative : Bool)
  /-- The result of a calculation that has none. -/
  | undefined
  deriving DecidableEq, Repr

namespace Binary64

/-- The first significand that is too large. -/
def significandLimit : Nat := Nat.pow 2 53

def lowestExponent : Int := -1074

def highestExponent : Int := 971

/-- The whole number nearest to a quotient, and half way between two the even one. -/
def roundQuotient (numerator denominator : Nat) : Nat :=
  let quotient := numerator / denominator
  let twice := 2 * (numerator % denominator)
  if twice < denominator then quotient
  else if denominator < twice then quotient + 1
  else quotient + quotient % 2

/-- Numerator and denominator of a quotient that is divided by a power. -/
def divideByPower (base : Nat) (exponent : Int) (numerator denominator : Nat) : Nat × Nat :=
  (numerator * Nat.pow base (-exponent).toNat, denominator * Nat.pow base exponent.toNat)

/-- The exponent with which a positive quotient has 53 bits before its binary point, or the lowest
one if it has fewer. -/
def exponentOf (numerator denominator : Nat) : Int :=
  let least := max lowestExponent ((numerator.log2 : Int) - denominator.log2 - 53)
  let (high, low) := divideByPower 2 least numerator denominator
  if high / low < significandLimit then least else least + 1

def ofQuotient (negative : Bool) (numerator denominator : Nat) : Binary64 :=
  if numerator = 0 then .finite negative 0 lowestExponent
  else
    let exponent := exponentOf numerator denominator
    let (high, low) := divideByPower 2 exponent numerator denominator
    let rounded := roundQuotient high low
    let (significand, exponent) :=
      if rounded = significandLimit then (rounded / 2, exponent + 1) else (rounded, exponent)
    if highestExponent < exponent then .infinite negative
    else .finite negative significand exponent

/-- About how many decimal digits a number has: at most two less. -/
def aboutDigits (number : Nat) : Nat := number.log2 * 30103 / 100000

/-- The number nearest to `digits * 10 ^ exponent`. Beyond the powers of ten that are looked at,
every number is infinite or zero. -/
def ofDecimal (negative : Bool) (digits : Nat) (exponent : Int) : Binary64 :=
  let places := exponent + aboutDigits digits
  if digits = 0 ∨ places < -330 then .finite negative 0 lowestExponent
  else if 330 < places then .infinite negative
  else
    let (numerator, denominator) := divideByPower 10 (-exponent) digits 1
    ofQuotient negative numerator denominator

example : ofDecimal false 1 (-1) = .finite false 0x1999999999999a (-56) := by decide +kernel
example : ofDecimal false 9007199254740993 0 = .finite false 4503599627370496 1 := by decide +kernel
example : ofDecimal false 5 (-324) = .finite false 1 (-1074) := by decide +kernel
example : ofDecimal false 17976931348623159 292 = .infinite false := by decide +kernel

end Binary64

end Depot
