import Mathlib.Data.Nat.Digits.Defs
import Depot.Proofs.Records

/-!
The layout of a record, as digits in base 256: four bytes for the magic number, four for the
algorithm and eight for the checksum, each with the most significant byte first. What is no record
has a first fault, and reading names that fault with the number it found there.
-/

namespace Depot

namespace Bytes

/-- The number in a part of some bytes, the most significant byte first. -/
def field (data : ByteArray) (start width : Nat) : Nat :=
  Nat.ofDigits 256 (((data.data.toList.drop start).take width).reverse.map UInt8.toNat)

theorem number_eq_ofDigits (bytes : List UInt8) :
    number bytes = Nat.ofDigits 256 (bytes.reverse.map UInt8.toNat) := by
  induction bytes with
  | nil => rfl
  | cons byte bytes induction =>
      rw [number_cons, induction, List.reverse_cons, List.map_append, Nat.ofDigits_append,
        List.length_map, List.length_reverse, List.map_singleton, Nat.ofDigits_singleton,
        Nat.add_comm, Nat.mul_comm]

theorem field_eq_toNat (data : ByteArray) (start width : Nat) :
    field data start width = toNat (data.extract start (start + width)) := by
  rw [toNat_eq_number, number_eq_ofDigits, field]
  simp

end Bytes

namespace Footer

variable {first algorithm : UInt32} {checksum : UInt64}

theorem field_first_eq_iff {found : UInt32} :
    Bytes.field (words first algorithm checksum) 0 4 = found.toNat ↔ first = found := by
  rw [Bytes.field_eq_toNat, extract_first, Bytes.toNat_ofWord, UInt32.toNat_inj]

theorem field_algorithm_eq_iff {found : UInt32} :
    Bytes.field (words first algorithm checksum) 4 4 = found.toNat ↔ algorithm = found := by
  rw [Bytes.field_eq_toNat, extract_algorithm, Bytes.toNat_ofWord, UInt32.toNat_inj]

theorem field_checksum_eq_iff {found : UInt64} :
    Bytes.field (words first algorithm checksum) 8 8 = found.toNat ↔ checksum = found := by
  rw [Bytes.field_eq_toNat, extract_checksum, Bytes.toNat_ofDoubleWord, UInt64.toNat_inj]

/-- The first reason why some bytes are no record. -/
inductive Fault (data : ByteArray) : FooterError → Prop where
  | length (short : data.size ≠ 16) : Fault data (.length data.size)
  | magic {found : UInt32} (sixteen : data.size = 16)
      (stands : Bytes.field data 0 4 = found.toNat) (different : found ≠ magic) :
      Fault data (.magic found)
  | algorithm {found : UInt32} (sixteen : data.size = 16)
      (isMagic : Bytes.field data 0 4 = Footer.magic.toNat)
      (stands : Bytes.field data 4 4 = found.toNat) (unknown : found ≠ crc32Algorithm) :
      Fault data (.algorithm found)
  | checksum {found : UInt64} (sixteen : data.size = 16)
      (isMagic : Bytes.field data 0 4 = Footer.magic.toNat)
      (isCrc : Bytes.field data 4 4 = crc32Algorithm.toNat)
      (stands : Bytes.field data 8 8 = found.toNat) (wide : 2 ^ 32 ≤ found.toNat) :
      Fault data (.illegalChecksum found)

/-- Reading names the first fault. -/
theorem decode_of_fault {data : ByteArray} {error : FooterError} (fault : Fault data error) :
    decode data = .error error := by
  by_cases sixteen : data.size = size
  · rcases exists_words sixteen with ⟨first, algorithm, checksum, rfl⟩
    cases fault with
    | length short => exact absurd (size_words _ _ _) short
    | magic _ stands different =>
        cases field_first_eq_iff.mp stands
        rw [decode_words, if_pos different]
    | algorithm _ isMagic stands unknown =>
        cases field_first_eq_iff.mp isMagic
        cases field_algorithm_eq_iff.mp stands
        rw [decode_words, if_neg (not_not_intro rfl), if_pos unknown]
    | checksum _ isMagic isCrc stands wide =>
        cases field_first_eq_iff.mp isMagic
        cases field_algorithm_eq_iff.mp isCrc
        cases field_checksum_eq_iff.mp stands
        rw [decode_words, if_neg (not_not_intro rfl), if_neg (not_not_intro rfl),
          if_neg (Nat.not_lt.mpr wide)]
  · rw [decode_of_size sixteen]
    cases fault with
    | length => rfl
    | magic here | algorithm here | checksum here => exact absurd here sixteen

/-- What cannot be read has the fault that reading names. -/
theorem fault_of_decode {data : ByteArray} {error : FooterError}
    (failed : decode data = .error error) : Fault data error := by
  by_cases sixteen : data.size = size
  · rcases exists_words sixteen with ⟨first, algorithm, checksum, rfl⟩
    rw [decode_words] at failed
    split_ifs at failed with noMagic noCrc small
    · cases failed
      exact .magic sixteen (field_first_eq_iff.mpr rfl) noMagic
    · cases failed
      exact .algorithm sixteen (field_first_eq_iff.mpr (not_not.mp noMagic))
        (field_algorithm_eq_iff.mpr rfl) noCrc
    · cases failed
      exact .checksum sixteen (field_first_eq_iff.mpr (not_not.mp noMagic))
        (field_algorithm_eq_iff.mpr (not_not.mp noCrc)) (field_checksum_eq_iff.mpr rfl)
        (Nat.not_lt.mp small)
  · rw [decode_of_size sixteen] at failed
    cases failed
    exact .length sixteen

/-- Exactly the written CRC-32 records with a checksum of 32 bits are read, each as itself. The
written form of another record is refused, for its algorithm if that is wrong and else for its
checksum, and so are all other bytes, for their first fault. -/
theorem decode_exact :
    (∀ data footer, decode data = .ok footer ↔ data = footer.encode ∧
      footer.algorithm = crc32Algorithm ∧ footer.checksum.toNat < 2 ^ 32) ∧
    (∀ footer : Footer, decode footer.encode =
      if footer.algorithm ≠ crc32Algorithm then .error (.algorithm footer.algorithm)
      else if footer.checksum.toNat < 2 ^ 32 then .ok footer
      else .error (.illegalChecksum footer.checksum)) ∧
    ∀ data error, decode data = .error error ↔ Fault data error := by
  refine ⟨fun _ _ => decode_eq_ok_iff, fun footer => ?_, fun _ _ => ⟨fault_of_decode, decode_of_fault⟩⟩
  rw [encode_eq_words, decode_words, if_neg (not_not_intro rfl)]

end Footer

end Depot
