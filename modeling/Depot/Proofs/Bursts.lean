import Mathlib.Logic.Function.Iterate
import Mathlib.Tactic.ByContra
import Depot.Checksum.Crc32

/-!
What CRC-32 cannot overlook. The register of the checksum moves by a bijection with every byte, and
up to four bytes that follow one another move it as the single word that they make. So two messages
of one length that differ only within four bytes leave different registers.
-/

namespace Depot.Bytes

/-- Whether bytes are others of which some have been changed, all of them among `width` that follow
one another. -/
structure IsBurst (width : Nat) (original damaged : ByteArray) : Prop where
  sameSize : damaged.size = original.size
  changed : damaged ≠ original
  within : ∃ start, ∀ index, damaged.data[index]? ≠ original.data[index]? →
    start ≤ index ∧ index < start + width

/-- There is a byte that a burst has changed. -/
theorem IsBurst.exists_changed {width : Nat} {original damaged : ByteArray}
    (isBurst : IsBurst width original damaged) :
    ∃ index < original.size, damaged.data[index]? ≠ original.data[index]? := by
  by_contra! same
  apply isBurst.changed
  apply ByteArray.ext
  apply Array.ext_getElem?
  intro index
  by_cases inside : index < original.size
  · exact same index inside
  · have outside : damaged.size ≤ index := isBurst.sameSize ▸ Nat.not_lt.mp inside
    rw [Array.getElem?_eq_none outside, Array.getElem?_eq_none (Nat.not_lt.mp inside)]

theorem isBurst_of_append {width : Nat} {front before after back : ByteArray}
    (sameSize : after.size = before.size) (changed : after ≠ before) (few : before.size ≤ width) :
    IsBurst width (front ++ before ++ back) (front ++ after ++ back) := by
  refine ⟨?_, ?_, front.size, ?_⟩
  · simp [sameSize]
  · intro same
    exact changed ((ByteArray.append_right_inj front).mp
      ((ByteArray.append_left_inj back).mp same))
  · intro index differs
    simp only [ByteArray.data_append, Array.getElem?_append, Array.size_append,
      ByteArray.size_data] at differs
    grind

end Depot.Bytes

namespace Depot.Crc32

open Function

/-! ## One bit -/

theorem and_one_eq_one_iff (register : UInt32) :
    register &&& 1 = 1 ↔ register.toBitVec.getLsbD 0 = true := by
  rw [← UInt32.toBitVec_inj, UInt32.toBitVec_and]
  change register.toBitVec &&& 1#32 = 1#32 ↔ _
  rw [BitVec.and_one_eq_setWidth_ofBool_getLsbD]
  cases register.toBitVec.getLsbD 0 <;> decide

theorem toBitVec_shift (register : UInt32) :
    (shift register).toBitVec = (register.toBitVec >>> 1) ^^^
      (if register.toBitVec.getLsbD 0 then polynomial.toBitVec else 0) := by
  rw [shift]
  simp only [and_one_eq_one_iff]
  split <;> simp

/-- Dividing out a bit is linear. -/
theorem shift_xor (left right : UInt32) : shift (left ^^^ right) = shift left ^^^ shift right := by
  apply UInt32.toBitVec_inj.mp
  rw [UInt32.toBitVec_xor, toBitVec_shift, toBitVec_shift, toBitVec_shift, UInt32.toBitVec_xor,
    BitVec.getLsbD_xor, BitVec.ushiftRight_xor_distrib]
  generalize polynomial.toBitVec = divisor
  have twice : divisor ^^^ divisor = 0#32 := BitVec.xor_self
  cases left.toBitVec.getLsbD 0 <;> cases right.toBitVec.getLsbD 0 <;> grind

/-- The divided out polynomial stands in the highest bit, which is free after the shift, so nothing
but zero vanishes. -/
theorem eq_zero_of_shift {register : UInt32} (vanishes : shift register = 0) : register = 0 := by
  have bits := congrArg UInt32.toBitVec vanishes
  rw [toBitVec_shift] at bits
  cases low : register.toBitVec.getLsbD 0 with
  | true =>
      have top := congrArg (BitVec.getLsbD · 31) bits
      simp [low, polynomial] at top
  | false =>
      rw [low] at bits
      apply UInt32.toBitVec_inj.mp
      apply BitVec.eq_of_getLsbD_eq
      intro index inside
      cases index with
      | zero => simpa using low
      | succ index =>
          have bit := congrArg (BitVec.getLsbD · index) bits
          simpa [Nat.add_comm] using bit

theorem shift_injective : Injective shift := by
  intro left right same
  apply UInt32.xor_eq_zero_iff.mp
  apply eq_zero_of_shift
  rw [shift_xor, same, UInt32.xor_self]

theorem iterate_shift_xor (count : Nat) (left right : UInt32) :
    shift^[count] (left ^^^ right) = shift^[count] left ^^^ shift^[count] right := by
  induction count generalizing left right with
  | zero => rfl
  | succ count induction => rw [iterate_succ_apply, shift_xor, induction]; rfl

/-- Bits that are zero are shifted out and leave no trace. -/
theorem iterate_shift_of_clear {register : UInt32} {count : Nat}
    (clear : ∀ index < count, register.toBitVec.getLsbD index = false) :
    (shift^[count] register).toBitVec = register.toBitVec >>> count := by
  induction count with
  | zero => simp
  | succ count induction =>
      have below := induction fun index inside => clear index (by omega)
      have low : (register.toBitVec >>> count).getLsbD 0 = false := by
        simpa using clear count (by omega)
      rw [iterate_succ_apply', toBitVec_shift, below, low, BitVec.shiftRight_add]
      simp

/-! ## Bytes -/

theorem absorb_eq (register : UInt32) (byte : UInt8) :
    absorb register byte = shift^[8] (register ^^^ byte.toUInt32) := rfl

theorem absorb_injective (byte : UInt8) : Injective (absorb · byte) := by
  intro left right same
  exact (UInt32.xor_left_inj _).mp (shift_injective.iterate 8 same)

theorem foldl_absorb_injective (bytes : List UInt8) : Injective (bytes.foldl absorb ·) := by
  induction bytes with
  | nil => exact injective_id
  | cons byte bytes induction => exact induction.comp (absorb_injective byte)

theorem update_injective (data : ByteArray) : Injective (update · data) := by
  intro left right same
  simp only [update, Bytes.fold_eq_foldl] at same
  exact foldl_absorb_injective _ same

/-- The word that bytes make, the least significant first. -/
def word : List UInt8 → UInt32
  | [] => 0
  | byte :: bytes => byte.toUInt32 ^^^ (word bytes <<< 8)

theorem getLsbD_word {bytes : List UInt8} {index : Nat} (above : 8 * bytes.length ≤ index) :
    (word bytes).toBitVec.getLsbD index = false := by
  induction bytes generalizing index with
  | nil => simp [word]
  | cons byte bytes induction =>
      rw [List.length_cons] at above
      have rest := @induction (index - 8) (by omega)
      have outside : byte.toBitVec.getLsbD index = false :=
        BitVec.getLsbD_of_ge _ _ (by omega)
      simp [word, rest, outside]

/-- A word of three bytes that is moved up by one comes down again unchanged. -/
theorem iterate_shift_word {bytes : List UInt8} (few : bytes.length ≤ 3) :
    shift^[8] (word bytes <<< 8) = word bytes := by
  apply UInt32.toBitVec_inj.mp
  rw [iterate_shift_of_clear]
  · apply BitVec.eq_of_getLsbD_eq
    intro index inside
    have notBelow : ¬8 + index < 8 := by omega
    by_cases small : 8 + index < 32
    · simp [small, notBelow, BitVec.getLsbD_eq_getElem inside]
    · have zero : (word bytes).toBitVec.getLsbD index = false := getLsbD_word (by omega)
      simp [small, zero]
  · intro index inside
    simp [inside]

/-- Up to four bytes are taken in as the word that they make. -/
theorem foldl_absorb_eq {bytes : List UInt8} (few : bytes.length ≤ 4) (register : UInt32) :
    bytes.foldl absorb register = shift^[8 * bytes.length] (register ^^^ word bytes) := by
  induction bytes generalizing register with
  | nil => simp [word]
  | cons byte bytes induction =>
      rw [List.length_cons] at few
      calc (byte :: bytes).foldl absorb register
          = shift^[8 * bytes.length] (absorb register byte ^^^ word bytes) :=
            induction (by omega) (absorb register byte)
        _ = shift^[8 * bytes.length]
              (shift^[8] (register ^^^ byte.toUInt32) ^^^ shift^[8] (word bytes <<< 8)) := by
            rw [absorb_eq, iterate_shift_word (by omega)]
        _ = shift^[8 * bytes.length + 8] (register ^^^ word (byte :: bytes)) := by
            rw [← iterate_shift_xor, iterate_add_apply, word, UInt32.xor_assoc]
        _ = shift^[8 * (byte :: bytes).length] (register ^^^ word (byte :: bytes)) := rfl

theorem word_inj {first second : List UInt8} (sameLength : first.length = second.length)
    (few : first.length ≤ 4) (same : word first = word second) : first = second := by
  induction first generalizing second with
  | nil => exact (List.length_eq_zero_iff.mp sameLength.symm).symm
  | cons byte bytes induction =>
      cases second with
      | nil => simp at sameLength
      | cons other others =>
          simp only [List.length_cons] at sameLength few
          have lowest (byte : UInt8) (bytes : List UInt8) :
              (word (byte :: bytes)).toUInt8 = byte := by
            apply UInt8.toBitVec_inj.mp
            apply BitVec.eq_of_getLsbD_eq
            intro index inside
            simp [word, inside]
          have sameByte : byte = other := by rw [← lowest byte bytes, same, lowest]
          rw [sameByte, word, word, UInt32.xor_right_inj] at same
          have sameWord : word bytes = word others := by
            rw [← @iterate_shift_word bytes (by omega), same, iterate_shift_word (by omega)]
          rw [sameByte, induction (by omega) (by omega) sameWord]

theorem foldl_absorb_inj {first second : List UInt8} {register : UInt32}
    (sameLength : first.length = second.length) (few : first.length ≤ 4)
    (same : first.foldl absorb register = second.foldl absorb register) : first = second := by
  rw [foldl_absorb_eq few, foldl_absorb_eq (sameLength ▸ few), ← sameLength] at same
  exact word_inj sameLength few ((UInt32.xor_right_inj _).mp (shift_injective.iterate _ same))

/-! ## Bursts -/

/-- Messages of one length that differ only within four bytes are told apart by the register. -/
theorem eq_of_foldl_absorb {first second : List UInt8} {start : Nat} {register : UInt32}
    (sameLength : first.length = second.length)
    (within : ∀ index, first[index]? ≠ second[index]? → start ≤ index ∧ index < start + 4)
    (same : first.foldl absorb register = second.foldl absorb register) : first = second := by
  have parts (bytes : List UInt8) :
      bytes = bytes.take start ++ ((bytes.drop start).take 4 ++ (bytes.drop start).drop 4) := by
    rw [List.take_append_drop, List.take_append_drop]
  have front : first.take start = second.take start := by
    apply List.ext_getElem?
    intro index
    rw [List.getElem?_take, List.getElem?_take]
    grind
  have back : (first.drop start).drop 4 = (second.drop start).drop 4 := by
    apply List.ext_getElem?
    intro index
    simp only [List.getElem?_drop]
    grind
  have middle : (first.drop start).take 4 = (second.drop start).take 4 := by
    rw [parts first, parts second, front, back] at same
    simp only [List.foldl_append] at same
    refine foldl_absorb_inj ?_ ?_ (foldl_absorb_injective _ same)
    · simp [sameLength]
    · rw [List.length_take]
      exact Nat.min_le_left _ _
  rw [parts first, parts second, front, middle, back]

/-- A burst of up to four bytes changes the register, wherever in the message it is. -/
theorem update_ne_of_isBurst {original damaged : ByteArray} {register : UInt32}
    (isBurst : Bytes.IsBurst 4 original damaged) :
    update register damaged ≠ update register original := by
  intro same
  rcases isBurst.within with ⟨start, within⟩
  have listed : ∀ index, damaged.data.toList[index]? ≠ original.data.toList[index]? →
      start ≤ index ∧ index < start + 4 := by
    intro index differs
    exact within index (by simpa using differs)
  rw [update, update, Bytes.fold_eq_foldl, Bytes.fold_eq_foldl] at same
  apply isBurst.changed
  apply ByteArray.ext
  exact Array.toList_inj.mp (eq_of_foldl_absorb isBurst.sameSize listed same)

end Depot.Crc32
