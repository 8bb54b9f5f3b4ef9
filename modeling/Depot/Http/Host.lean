import Depot.Http.Direction
import Depot.Http.Label
import Depot.Http.Percent
import Depot.Text
import Depot.Text.Utf8

/-!
The hosts that a location may name: addresses of four bytes, addresses of eight groups between
brackets, and names, which are labels with dots between them.
-/

namespace Depot.Http

inductive Host where
  | name (text : String)
  /-- An address of four bytes, as one number. -/
  | short (address : Nat)
  /-- An address of eight groups of two bytes. -/
  | long (groups : List Nat)
  deriving DecidableEq, Repr

namespace Host

/-! ## Short addresses -/

/-- The number that digits stand for, if all of them are digits of the base. -/
def number? (base : Nat) (isDigit : Char → Bool) (digits : List Char) : Option Nat :=
  if digits.all isDigit then some (Numeral.valueOf base digits) else none

/-- A part of an address: a number that is hexadecimal behind `0x`, octal behind `0`, and else
decimal. -/
def addressPart? : List Char → Option Nat
  | [] => none
  | '0' :: 'x' :: digits => number? 16 Numeral.isHexDigit digits
  | '0' :: digit :: digits =>
      number? 8 (fun character => '0' ≤ character && character ≤ '7') (digit :: digits)
  | digits => number? 10 Char.isDigit digits

/-- The parts of a name. A dot at its end does not count. -/
def partsOf (name : List Char) : List (List Char) :=
  let parts := Text.pieces '.' name
  if parts.getLast? = some [] then parts.dropLast else parts

/-- Whether a name can only be an address: its last part is a number, or all of it are digits. -/
def endsInNumber (name : List Char) : Bool :=
  match (partsOf name).getLast? with
  | some last => (last != [] && last.all Char.isDigit) || (addressPart? last).isSome
  | none => false

/-- The address that numbers stand for. All but the last are bytes, and the last stands for all
bytes that are left. -/
def addressOf? : (left : Nat) → List Nat → Option Nat
  | left, [last] => if last < Nat.pow 256 left then some last else none
  | left + 1, first :: rest =>
      if first ≤ 255 then (addressOf? left rest).map (first * Nat.pow 256 left + ·) else none
  | _, _ => none

def short? (name : List Char) : Option Host := do
  let numbers ← (partsOf name).mapM addressPart?
  if numbers.length ≤ 4 then return .short (← addressOf? 4 numbers) else none

/-! ## Long addresses -/

def group? (text : List Char) : Option Nat :=
  if 1 ≤ text.length ∧ text.length ≤ 4 then number? 16 Numeral.isHexDigit text else none

/-- A number of at most 255, without zeros in front. -/
def byte? (text : List Char) : Option Nat := do
  if text.isEmpty ∨ (text.head? = some '0' ∧ text.length ≠ 1) then none
  let number ← number? 10 Char.isDigit text
  if number ≤ 255 then return number else none

/-- The two groups that four numbers with dots between them stand for. -/
def dottedGroups? (text : List Char) : Option (List Nat) := do
  match ← (Text.pieces '.' text).mapM byte? with
  | [first, second, third, fourth] => return [first * 256 + second, third * 256 + fourth]
  | _ => none

/-- Groups with colons between them. Four numbers with dots may stand for the last two. -/
def groups? (mayEndDotted : Bool) (text : List Char) : Option (List Nat) :=
  if text.isEmpty then some []
  else
    let parts := Text.pieces ':' text
    match parts.mapM group? with
    | some groups => some groups
    | none => do
        let leading ← parts.dropLast.mapM group?
        let last ← parts.getLast?
        if mayEndDotted then return leading ++ (← dottedGroups? last) else none

/-- The address of eight groups that a text is. Two colons stand for at least one group of zero. -/
def long? (text : List Char) : Option Host := do
  match Text.cutText? "::".toList text with
  | none =>
      let groups ← groups? true text
      if groups.length = 8 then return .long groups else none
  | some (before, after) =>
      let left ← groups? false before
      let right ← groups? true after
      let missing := 8 - left.length - right.length
      if 1 ≤ missing then return .long (left ++ List.replicate missing 0 ++ right) else none

/-! ## Names -/

def characters? (text : List Char) : Option (List Char) := do
  let bytes := Percent.decode (String.ofList text).toUTF8.toList
  let images ← (Utf8.decode ⟨bytes.toArray⟩).toList.mapM Alphabet.image?
  return Composition.compose images.flatten

/-! ## Hosts -/

def bracketed? (text : List Char) : Option Host :=
  if text.getLast? = some ']' then long? text.dropLast else none

def ofText? : List Char → Option Host
  | '[' :: rest => bracketed? rest
  | text => do
      let characters ← characters? text
      let labels ← (Text.pieces '.' characters).mapM Label.ofText?
      let name := Text.join ['.'] (labels.map Label.written)
      if name.isEmpty || !Direction.agreeInName (labels.map Label.characters) then none
      else if endsInNumber name then short? name
      else return .name (String.ofList name)

/-- The host that a text names in a scheme whose hosts have no further meaning. -/
def ofOpaque? : List Char → Option Host
  | '[' :: rest => bracketed? rest
  | text =>
      let isForbidden := fun (character : Char) =>
        character.toNat = 0 || " \t\n\r#/:<>?@[\\]^|".toList.contains character
      if text.any isForbidden then none
      else some (.name (String.ofList (Percent.encode (fun character =>
        0x20 ≤ character.toNat && character.toNat < 0x7F) text)))

/-! ## Text -/

/-- Where the longest run of zeros begins, and how long it is; of equally long ones it is the
first. -/
def longestZeros : List Nat → Nat × Nat
  | [] => (0, 0)
  | group :: groups =>
      let here := ((group :: groups).takeWhile (· == 0)).length
      let (start, length) := longestZeros groups
      if length ≤ here then (0, here) else (start + 1, length)

def groupsText (groups : List Nat) : List Char :=
  Text.join [':'] (groups.map fun group => Nat.toDigits 16 group)

def text : Host → String
  | .name text => text
  | .short address =>
      Text.joinStrings "." ([16777216, 65536, 256, 1].map fun unit =>
        toString (address / unit % 256))
  | .long groups =>
      let (start, length) := longestZeros groups
      let written :=
        if length < 2 then groupsText groups
        else
          groupsText (groups.take start) ++ [':', ':'] ++ groupsText (groups.drop (start + length))
      String.ofList ('[' :: written ++ [']'])

example : (ofText? "0x7f.1".toList).map text = some "127.0.0.1" := by decide +kernel
example : ofText? "999.1.1.1".toList = none := by decide +kernel
example : (ofText? "Shop.EXAMPLE".toList).map text = some "shop.example" := by decide +kernel
example : (ofText? "[1:0:0:2::10.0.0.1]".toList).map text = some "[1::2:0:0:a00:1]" := by
  decide +kernel

end Host

end Depot.Http
