/-!
Digits in a base, hexadecimal and Base64 texts, and decimal numbers.
-/

namespace Depot.Numeral

def hexDigit (value : Nat) : Char :=
  if value < 10 then Char.ofNat (48 + value) else Char.ofNat (87 + value)

def hexByte (byte : UInt8) : List Char :=
  [hexDigit (byte.toNat / 16), hexDigit (byte.toNat % 16)]

/-- Whether a character is a hexadecimal digit, in either case. -/
def isHexDigit (character : Char) : Bool :=
  character.isDigit || ('a' ≤ character && character ≤ 'f') || ('A' ≤ character && character ≤ 'F')

/-- The number that a digit stands for, letters counting on from ten. -/
def digitValue (digit : Char) : Nat :=
  if digit.isDigit then digit.toNat - 48 else digit.toLower.toNat - 87

/-- A number that is being read: what stands before its last few digits, what these stand for, and
the weight that they give to what is before them. Few digits at a time are put to what is before
them, so that a long number is not calculated anew with every digit. -/
structure Tally where
  high : Nat
  low : Nat
  weight : Nat

namespace Tally

def value (tally : Tally) : Nat := tally.high * tally.weight + tally.low

def add (base : Nat) (tally : Tally) (digit : Char) : Tally :=
  let low := tally.low * base + digitValue digit
  let weight := tally.weight * base
  if weight < 1000000000000000 then ⟨tally.high, low, weight⟩
  else ⟨tally.high * weight + low, 0, 1⟩

end Tally

def valueOf (base : Nat) (digits : List Char) : Nat :=
  (digits.foldl (Tally.add base) ⟨0, 0, 1⟩).value

def hex (data : ByteArray) : String := String.ofList (data.toList.flatMap hexByte)

/-- The hexadecimal text of a number, with as many leading zeros as `width` asks for. -/
def hexNumber (width value : Nat) : String :=
  let digits := Nat.toDigits 16 value
  String.ofList (List.replicate (width - digits.length) '0' ++ digits)

def base64Digit (value : Nat) : Char :=
  if value < 26 then Char.ofNat (65 + value)
  else if value < 52 then Char.ofNat (97 + (value - 26))
  else if value < 62 then Char.ofNat (48 + (value - 52))
  else if value = 62 then '+'
  else '/'

def base64 : List UInt8 → List Char
  | [] => []
  | [first] =>
      let bits := first.toNat * 16
      [base64Digit (bits / 64), base64Digit (bits % 64), '=', '=']
  | [first, second] =>
      let bits := (first.toNat * 256 + second.toNat) * 4
      [base64Digit (bits / 4096), base64Digit (bits / 64 % 64), base64Digit (bits % 64), '=']
  | first :: second :: third :: others =>
      let bits := (first.toNat * 256 + second.toNat) * 256 + third.toNat
      base64Digit (bits / 262144) :: base64Digit (bits / 4096 % 64) ::
        base64Digit (bits / 64 % 64) :: base64Digit (bits % 64) :: base64 others

example : base64 [102, 111, 111, 98] = "Zm9vYg==".toList := by decide

/-- Why a text is not a number in a range. -/
inductive DigitFault where
  | empty
  | notDigit
  | tooLarge
  deriving DecidableEq, Repr

def DigitFault.message : DigitFault → String
  | .empty => "cannot parse integer from empty string"
  | .notDigit => "invalid digit found in string"
  | .tooLarge => "number too large to fit in target type"

/-- Read digits from the left; `value` is what the digits before them stand for. A character that
is no digit is noticed before the number grows too large, if it comes first. -/
def readDigits (limit : Nat) : (value : Nat) → List Char → Except DigitFault Nat
  | value, [] => .ok value
  | value, digit :: others =>
      if digit.isDigit then
        let next := value * 10 + (digit.toNat - 48)
        if next ≤ limit then readDigits limit next others else .error .tooLarge
      else .error .notDigit

/-- Read a decimal number of at most `limit`: digits, perhaps after one `+`. -/
def readDecimal (limit : Nat) (text : String) : Except DigitFault Nat :=
  match text.toList with
  | [] => .error .empty
  | '+' :: [] => .error .notDigit
  | '+' :: digits => readDigits limit 0 digits
  | digits => readDigits limit 0 digits

end Depot.Numeral
