import Mathlib.Data.String.Basic
import Mathlib.Tactic.SplitIfs

/-!
The order of texts and of their bytes. Texts are compared character by character. Their UTF-8 bytes
compare alike: of two characters the greater one has the greater first byte, or the same first byte
and greater ones behind it, and a byte that follows tells no character from a part of another.
-/

namespace Depot.Text

open String (utf8EncodeChar)

def bytes (text : String) : List UInt8 := text.toByteArray.data.toList

theorem bytes_eq_flatMap (text : String) : bytes text = text.toList.flatMap utf8EncodeChar := by
  rw [bytes, ← String.utf8Encode_toList, List.utf8Encode]
  simp

/-! ## One character -/

/-- Numbers compare as their digits in base 64. -/
theorem lt_iff_digits {left right : Nat} :
    left < right ↔
      left / 64 < right / 64 ∨ left / 64 = right / 64 ∧ left % 64 < right % 64 := by
  omega

/-- A smaller character is smaller in bytes, whatever comes behind it. -/
theorem utf8EncodeChar_append_lt {left right : Char} (less : left < right)
    (afterLeft afterRight : List UInt8) :
    utf8EncodeChar left ++ afterLeft < utf8EncodeChar right ++ afterRight := by
  have codes : left.val.toNat < right.val.toNat := less
  have bound : right.val.toNat < 0x110000 := by
    have valid := right.valid
    simp only [UInt32.isValidChar, Nat.isValidChar] at valid
    omega
  simp only [utf8EncodeChar]
  generalize left.val.toNat = left at *
  generalize right.val.toNat = right at *
  have last := lt_iff_digits.mp codes
  have third := @lt_iff_digits (left / 64) (right / 64)
  have second := @lt_iff_digits (left / 4096) (right / 4096)
  simp only [Nat.div_div_eq_div_mul, Nat.reduceMul] at second third
  -- One case for each number of bytes on the left and on the right; the bytes are the digits.
  split_ifs <;>
    simp (disch := omega) only [List.cons_append, List.nil_append, List.cons_lt_cons_iff,
      UInt8.lt_iff_toNat_lt, ← UInt8.toNat_inj, UInt8.toNat_ofNat', Nat.mod_eq_of_lt] <;>
    omega

/-! ## Texts -/

theorem flatMap_utf8EncodeChar_lt {left right : List Char} (less : left < right) :
    left.flatMap utf8EncodeChar < right.flatMap utf8EncodeChar := by
  induction left generalizing right with
  | nil =>
      cases right with
      | nil => exact absurd less (List.not_lt_nil [])
      | cons first right =>
          rw [List.flatMap_nil, List.flatMap_cons]
          cases encoded : utf8EncodeChar first with
          | nil => exact absurd encoded String.utf8EncodeChar_ne_nil
          | cons byte others => exact List.nil_lt_cons byte _
  | cons first left induction =>
      cases right with
      | nil => exact absurd less (List.not_lt_nil _)
      | cons head right =>
          rw [List.flatMap_cons, List.flatMap_cons]
          rcases List.cons_lt_cons_iff.mp less with smaller | ⟨rfl, later⟩
          · exact utf8EncodeChar_append_lt smaller _ _
          · exact List.append_left_lt (induction later)

/-- The order of texts is the order of their bytes. -/
theorem bytes_lt_bytes_iff {left right : String} : bytes left < bytes right ↔ left < right := by
  rw [bytes_eq_flatMap, bytes_eq_flatMap]
  constructor
  · intro less
    rcases lt_trichotomy left right with before | rfl | after
    · exact before
    · exact absurd less (List.lt_irrefl _)
    · have greater := flatMap_utf8EncodeChar_lt (String.lt_iff_toList_lt.mp after)
      exact absurd greater (List.lt_asymm less)
  · intro before
    exact flatMap_utf8EncodeChar_lt (String.lt_iff_toList_lt.mp before)

end Depot.Text
