/-!
Punycode (RFC 3492), in which a label with characters beyond ASCII is written. The ASCII characters
stand in front; behind a hyphen follow numbers that say which characters are put where among them,
in the order of their codes. A number is written with its low digits first, and each digit tells
whether it is the last one.
-/

namespace Depot.Http.Punycode

/-! ## Digits and weights -/

def digit (value : Nat) : Char :=
  if value < 26 then Char.ofNat ('a'.toNat + value) else Char.ofNat ('0'.toNat + (value - 26))

def digitValue? (digit : Char) : Option Nat :=
  if 'a' ≤ digit ∧ digit ≤ 'z' then some (digit.toNat - 'a'.toNat)
  else if digit.isDigit then some (digit.toNat - '0'.toNat + 26)
  else none

/-- Divide by 35 until the value is small enough, and count the steps. -/
def settle (value steps : Nat) : Nat × Nat :=
  if 455 < value then settle (value / 35) (steps + 1) else (value, steps)
termination_by value

/-- The bias for the next number, after one that grew by `growth` among `count` characters. -/
def adapted (growth count : Nat) (isFirst : Bool) : Nat :=
  let scaled := if isFirst then growth / 700 else growth / 2
  let (value, steps) := settle (scaled + scaled / count) 0
  36 * steps + 36 * value / (value + 38)

/-- The digit from which on a number goes on. -/
def threshold (bias place : Nat) : Nat := min 26 (max 1 (place - bias))

theorem threshold_pos (bias place : Nat) : 1 ≤ threshold bias place := by
  simp only [threshold]
  omega

/-! ## Putting characters -/

/-- What has been read: the characters so far and the code of the last that was put among them, and
of the number in progress its value so far, the value that it started from, and the place and the
weight of its next digit. -/
structure Progress where
  output : List Char
  code : Nat
  bias : Nat
  value : Nat
  start : Nat
  place : Nat
  weight : Nat

def Progress.begin (ascii : List Char) : Progress := ⟨ascii, 128, 72, 0, 0, 36, 1⟩

/-- Put a character among the others, where a value says. -/
def Progress.put (progress : Progress) (value : Nat) (character : Char) : Progress :=
  let count := progress.output.length + 1
  let position := value % count
  { output := progress.output.insertIdx position character
    code := character.toNat
    bias := adapted (value - progress.start) count (progress.start == 0)
    value := position + 1
    start := position + 1
    place := 36
    weight := 1 }

/-! ## Reading -/

/-- Put the character that a value says. -/
def Progress.insert (progress : Progress) (value : Nat) : Option Progress :=
  let code := progress.code + value / (progress.output.length + 1)
  if code.isValidChar then some (progress.put value (Char.ofNat code)) else none

def Progress.take (progress : Progress) (digit : Char) : Option Progress := do
  let digit ← digitValue? digit
  let threshold := threshold progress.bias progress.place
  let value := progress.value + digit * progress.weight
  if digit < threshold then progress.insert value
  else return { progress with
    value := value
    place := progress.place + 36
    weight := progress.weight * (36 - threshold) }

/-- The ASCII characters in front of the last hyphen, and the digits behind it. -/
def parts (text : List Char) : List Char × List Char :=
  let digits := (text.reverse.takeWhile (· != '-')).reverse
  let ascii := text.take (text.length - digits.length - 1)
  if ascii.isEmpty then ([], text) else (ascii, digits)

def decode? (text : List Char) : Option (List Char) := do
  let (ascii, digits) := parts text
  let progress ← digits.foldlM Progress.take (.begin ascii)
  if progress.place = 36 then return progress.output else none

/-! ## Writing -/

def digitsOf (bias place number : Nat) : List Char :=
  let least := threshold bias place
  if number < least then [digit number]
  else
    let rest := number - least
    digit (least + rest % (36 - least)) :: digitsOf bias (place + 36) (rest / (36 - least))
termination_by number
decreasing_by
  have positive : 1 ≤ threshold bias place := threshold_pos bias place
  exact Nat.lt_of_le_of_lt (Nat.div_le_self _ _) (by omega)

/-- The characters beyond ASCII in the order of their codes, each with its position among the
characters that are there before it. -/
def additions (text : List Char) : List (Char × Nat) :=
  let beyond := text.zipIdx.filter fun (character, _) => 0x80 ≤ character.toNat
  (beyond.mergeSort fun left right => left.1 ≤ right.1).map fun (character, index) =>
    (character, (text.take index).countP (· ≤ character))

/-- Write the numbers that put characters among the others. -/
def writtenAdditions (progress : Progress) : List (Char × Nat) → List Char
  | [] => []
  | (character, position) :: rest =>
      let count := progress.output.length + 1
      let value := (character.toNat - progress.code) * count + position
      digitsOf progress.bias 36 (value - progress.start) ++
        writtenAdditions (progress.put value character) rest

def encode (text : List Char) : List Char :=
  let ascii := text.filter (·.toNat < 0x80)
  (if ascii.isEmpty then [] else ascii ++ ['-']) ++
    writtenAdditions (.begin ascii) (additions text)

example : decode? "bcher-kva".toList = some "bücher".toList := by decide +kernel
example : decode? "n3h".toList = some "☃".toList := by decide +kernel
example : decode? "-".toList = none := by decide +kernel
example : encode "bücher".toList = "bcher-kva".toList := by decide +kernel
example : encode "☃".toList = "n3h".toList := by decide +kernel

end Depot.Http.Punycode
