import Depot.Text
import Depot.Text.Numeral

/-!
Sets of characters that are written as ranges of codes in hexadecimal, from the lowest to the
highest, as in `30-39 5F 61-7A`.
-/

namespace Depot

/-- A set of characters: the first and the last code of each range, in increasing order. -/
structure Codes where
  ranges : List (Nat × Nat)
  deriving Repr

namespace Codes

/-- The range that is written as one code, or as two codes with a hyphen between them. -/
def range (text : List Char) : Nat × Nat :=
  let (first, last) := (Text.cutAt? '-' text).getD (text, text)
  (Numeral.valueOf 16 first, Numeral.valueOf 16 last)

/-- The set that is written with blanks between its ranges. -/
def ofText (text : String) : Codes := ⟨(Text.pieces ' ' text.toList).map range⟩

/-- The set that is written in several rows. -/
def ofRows (rows : List String) : Codes := ⟨rows.flatMap fun row => (ofText row).ranges⟩

/-- Whether a code is in one of the ranges. The first range that does not end before it decides. -/
def within : (ranges : List (Nat × Nat)) → (code : Nat) → Bool
  | [], _ => false
  | (first, last) :: ranges, code => if code ≤ last then first ≤ code else within ranges code

def contains (codes : Codes) (character : Char) : Bool := within codes.ranges character.toNat

example : (ofText "30-39 5F 61-7A").contains '_' := by decide
example : ¬(ofText "30-39 5F 61-7A").contains 'A' := by decide

end Codes

end Depot
