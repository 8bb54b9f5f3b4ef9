import Depot.Text

/-!
Dates, times of day, and both together. They are written as RFC 3339 has it.
-/

namespace Depot.Toml

structure Date where
  year : Nat
  month : Nat
  day : Nat
  deriving DecidableEq, Repr

/-- A time of day. A minute may have a leap second. -/
structure Clock where
  hour : Nat
  minute : Nat
  second : Nat
  nanosecond : Nat
  deriving DecidableEq, Repr

inductive Offset where
  | universal
  | minutes (count : Int)
  deriving DecidableEq, Repr

inductive Moment where
  | date (day : Date)
  | clock (time : Clock)
  /-- A date and a time, with an offset unless they are local. -/
  | both (day : Date) (time : Clock) (offset : Option Offset)
  deriving DecidableEq, Repr

def padded (width value : Nat) : List Char :=
  let digits := Nat.toDigits 10 value
  List.replicate (width - digits.length) '0' ++ digits

namespace Date

def isLeapYear (year : Nat) : Bool := year % 4 = 0 && (year % 100 != 0 || year % 400 = 0)

def daysIn (year month : Nat) : Nat :=
  if month = 2 then (if isLeapYear year then 29 else 28)
  else if month = 4 ∨ month = 6 ∨ month = 9 ∨ month = 11 then 30
  else 31

def isValid (date : Date) : Bool :=
  1 ≤ date.month && date.month ≤ 12 && 1 ≤ date.day && date.day ≤ daysIn date.year date.month

def text (date : Date) : List Char :=
  padded 4 date.year ++ '-' :: padded 2 date.month ++ '-' :: padded 2 date.day

end Date

namespace Clock

/-- Whether a day has such a time. A minute may have one second more. -/
def isValid (clock : Clock) : Bool := clock.hour ≤ 23 && clock.minute ≤ 59 && clock.second ≤ 60

/-- The part of a second, without the zeros at its end; nothing for a whole second. -/
def fractionText (clock : Clock) : List Char :=
  if clock.nanosecond = 0 then [] else '.' :: Text.trimEnd '0' (padded 9 clock.nanosecond)

def text (clock : Clock) : List Char :=
  padded 2 clock.hour ++ ':' :: padded 2 clock.minute ++ ':' :: padded 2 clock.second ++
    clock.fractionText

end Clock

def Offset.text : Offset → List Char
  | .universal => ['Z']
  | .minutes count =>
      (if count < 0 then '-' else '+') ::
        (padded 2 (count.natAbs / 60) ++ ':' :: padded 2 (count.natAbs % 60))

def Moment.text : Moment → String
  | .date day => String.ofList day.text
  | .clock time => String.ofList time.text
  | .both day time offset =>
      String.ofList (day.text ++ 'T' :: time.text ++ (offset.map Offset.text).getD [])

/-- The key of a table that stands for a moment. -/
def Moment.key : String := "$__toml_private_datetime"

example : (Moment.both ⟨987, 7, 5⟩ ⟨0, 32, 1, 120000000⟩ (some (.minutes (-450)))).text =
    "0987-07-05T00:32:01.12-07:30" := by decide

end Depot.Toml
