import Depot.Number.Binary64

/-!
Floating-point numbers written in decimal, with as few digits as still read back as the same number,
and of those the nearest. The digits are found on grids of powers of ten, from coarse to fine: the
first grid with a point among the numbers that round to the given one has the fewest digits.
-/

namespace Depot.Binary64

/-- A quotient, and the bounds between which numbers round to it, as multiples of one unit. -/
structure Span where
  low : Nat
  middle : Nat
  high : Nat
  /-- Whether the bounds themselves round to the middle. -/
  closed : Bool

/-- What rounds to a finite number, in quarters of its last significant bit. Below a power of two
the numbers lie twice as close. -/
def span (significand : Nat) (exponent : Int) : Span where
  low := 4 * significand -
    if significand = significandLimit / 2 ∧ lowestExponent < exponent then 1 else 2
  middle := 4 * significand
  high := 4 * significand + 2
  closed := significand % 2 = 0

namespace Span

/-- Whether a point on the grid lies in a span; the unit of the span is the given quotient of the
grid's. -/
def holds (span : Span) (numerator denominator point : Nat) : Bool :=
  let place := point * denominator
  if span.closed then span.low * numerator ≤ place && place ≤ span.high * numerator
  else span.low * numerator < place && place < span.high * numerator

/-- The point of the grid in a span that is nearest to its middle, and half way between two the
upper one. Only the two neighbours of the middle need to be looked at. -/
def point? (span : Span) (numerator denominator : Nat) : Option Nat :=
  let below := span.middle * numerator / denominator
  let rest := span.middle * numerator % denominator
  match span.holds numerator denominator below, span.holds numerator denominator (below + 1) with
  | true, true => some (if 2 * rest < denominator then below else below + 1)
  | true, false => some below
  | false, true => some (below + 1)
  | false, false => none

/-- Go from a grid to finer ones until one has a point in the span; the result is the point and the
exponent of its grid. -/
def search (span : Span) (exponent : Int) : (grids : Nat) → Int → Nat × Int
  | 0, place => (0, place)
  | grids + 1, place =>
      let (high, low) := divideByPower 2 (2 - exponent) 1 1
      let (numerator, denominator) := divideByPower 10 place high low
      match span.point? numerator denominator with
      | some point => (point, place)
      | none => search span exponent grids (place - 1)

end Span

/-- The fewest digits that read back as a positive number, and the exponent of ten that goes with
them. -/
def shortest (significand : Nat) (exponent : Int) : Nat × Int :=
  let (numerator, denominator) := divideByPower 2 (-exponent) significand 1
  let places := (Nat.toDigits 10 (numerator / denominator)).length
  (span significand exponent).search exponent (places + 330) places

/-- Digits written with a decimal point, without an exponent. -/
def positional (digits : Nat) (exponent : Int) : List Char :=
  let written := Nat.toDigits 10 digits
  if 0 ≤ exponent then written ++ List.replicate exponent.toNat '0' ++ ['.', '0']
  else
    let behind := (-exponent).toNat
    let padded := List.replicate (behind + 1 - written.length) '0' ++ written
    padded.take (padded.length - behind) ++ '.' :: padded.drop (padded.length - behind)

def sign (negative : Bool) : List Char := if negative then ['-'] else []

/-- The text of a number: always with a point, never with an exponent. -/
def text : Binary64 → String
  | .finite negative 0 _ => String.ofList (sign negative ++ ['0', '.', '0'])
  | .finite negative significand exponent =>
      let (digits, place) := shortest significand exponent
      String.ofList (sign negative ++ positional digits place)
  | .infinite negative => String.ofList (sign negative ++ ['i', 'n', 'f'])
  | .undefined => "nan"

example : (ofDecimal false 1 (-1)).text = "0.1" := by decide
example : (ofDecimal true 1 2).text = "-100.0" := by decide
example : (ofDecimal false 9007199254740993 0).text = "9007199254740992.0" := by decide
example : (ofDecimal false 123456 (-3)).text = "123.456" := by decide

end Depot.Binary64
