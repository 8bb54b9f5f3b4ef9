import Depot.Toml.Quoted
import Depot.Toml.Value

/-!
Reading the values of TOML that hold no other values: texts, truth values, numbers, and moments.
-/

namespace Depot.Toml.Scalar

open Scan

/-! ## Numbers -/

/-- Whether a minus sign is here. A plus sign changes nothing. -/
def sign : Scan Bool := literal "-" *> pure true <|> literal "+" *> pure false <|> pure false

/-- One digit, perhaps after an underscore. -/
def nextDigit (isDigit : Char → Bool) : Scan Char := optional (literal "_") *> one isDigit

def digits (isDigit : Char → Bool) : Scan (List Char) := do
  return (← one isDigit) :: (← many (nextDigit isDigit))

/-- Decimal digits without a zero in front of others. -/
def wholeDigits : Scan (List Char) :=
  literal "0" *> pure ['0'] <|> digits Char.isDigit

def based (mark : String) (base : Nat) (isDigit : Char → Bool) : Scan Int := do
  literal mark
  return Numeral.valueOf base (← digits isDigit)

def decimal : Scan Int := do
  let negative ← sign
  let value := Numeral.valueOf 10 (← wholeDigits)
  return if negative then -value else value

def leastInteger : Int := -9223372036854775808

def greatestInteger : Int := 9223372036854775807

def integer : Scan Int := do
  let number ← based "0x" 16 Numeral.isHexDigit
    <|> based "0o" 8 (fun digit => '0' ≤ digit && digit ≤ '7')
    <|> based "0b" 2 (fun digit => digit == '0' || digit == '1')
    <|> decimal
  if leastInteger ≤ number ∧ number ≤ greatestInteger then return number else failure

def power : Scan Int := do
  literal "e" <|> literal "E"
  let negative ← sign
  let value := Numeral.valueOf 10 (← digits Char.isDigit)
  return if negative then -value else value

/-- A number with a decimal point or a power of ten. One that is too large is refused. -/
def decimalReal : Scan Binary64 := do
  let negative ← sign
  let whole ← wholeDigits
  let fraction ← optional (literal "." *> digits Char.isDigit)
  let exponent ← optional power
  if fraction.isNone ∧ exponent.isNone then failure
  let behind := fraction.getD []
  let number :=
    Binary64.ofDecimal negative (Numeral.valueOf 10 (whole ++ behind))
      (exponent.getD 0 - behind.length)
  if number = .infinite false then failure
  return number

def specialReal : Scan Binary64 := do
  let negative ← sign
  literal "inf" *> pure (.infinite negative) <|> literal "nan" *> pure .undefined

def real : Scan Binary64 := decimalReal <|> specialReal

/-! ## Moments -/

def fixed (count : Nat) : Scan Nat := Numeral.valueOf 10 <$> exactly Char.isDigit count

def date : Scan Date := do
  let year ← fixed 4
  literal "-"
  let month ← fixed 2
  literal "-"
  let date : Date := ⟨year, month, ← fixed 2⟩
  if date.isValid then return date else failure

/-- The part of a second. Digits after the ninth do not count. -/
def nanoseconds : Scan Nat := do
  literal "."
  let digits ← takeSome Char.isDigit
  return Numeral.valueOf 10 ((digits ++ List.replicate 9 '0').take 9)

def clock : Scan Clock := do
  let hour ← fixed 2
  literal ":"
  let minute ← fixed 2
  literal ":"
  let second ← fixed 2
  let clock : Clock := ⟨hour, minute, second, (← optional nanoseconds).getD 0⟩
  if clock.isValid then return clock else failure

def offset : Scan Offset :=
  (literal "Z" <|> literal "z") *> pure .universal <|> do
    let behind ← literal "-" *> pure true <|> literal "+" *> pure false
    let hour ← fixed 2
    literal ":"
    let minute ← fixed 2
    if hour ≤ 23 ∧ minute ≤ 59 then
      let count : Int := hour * 60 + minute
      return .minutes (if behind then -count else count)
    failure

def clockBehind : Scan (Clock × Option Offset) := do
  literal "T" <|> literal "t" <|> literal " "
  return (← clock, ← optional offset)

def moment : Scan Moment :=
  Moment.clock <$> clock <|> do
    let day ← date
    match ← optional clockBehind with
    | some (time, offset) => return .both day time offset
    | none => return .date day

/-! ## All of them -/

def truth : Scan Bool := literal "true" *> pure true <|> literal "false" *> pure false

/-- A moment or a real number begins like an integer, so they are tried before it. -/
def value : Scan Value :=
  Value.text <$> Quoted.text <|> Value.truth <$> truth <|> Value.moment <$> moment <|>
    Value.real <$> real <|> Value.integer <$> integer

end Depot.Toml.Scalar
