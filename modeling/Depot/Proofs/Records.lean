import Mathlib.Algebra.Ring.Nat
import Depot.Footer

/-!
Records are read back from their bytes and written from what was read. Sixteen bytes that are a
record are its written form, so a record that is made anew from a checked one has the same bytes.
-/

namespace Depot.Bytes

/-! ## Numbers and their bytes -/

/-- The number that a list of bytes stands for, the most significant first. -/
def number (bytes : List UInt8) : Nat := bytes.foldl (fun value byte => value * 256 + byte.toNat) 0

theorem toNat_eq_number (data : ByteArray) : toNat data = number data.data.toList := by
  rw [toNat, fold_eq_foldl, number]

theorem foldl_eq_number (start : Nat) (bytes : List UInt8) :
    bytes.foldl (fun value byte => value * 256 + byte.toNat) start =
      start * 256 ^ bytes.length + number bytes := by
  induction bytes generalizing start with
  | nil => simp [number]
  | cons byte bytes induction =>
      have whole : number (byte :: bytes) =
          (0 * 256 + byte.toNat) * 256 ^ bytes.length + number bytes := by
        rw [number, List.foldl_cons, induction]
      rw [List.foldl_cons, induction, whole, List.length_cons, Nat.pow_succ]
      simp only [Nat.add_mul, Nat.zero_mul, Nat.zero_add, Nat.mul_assoc, Nat.mul_comm 256,
        Nat.add_assoc]

theorem number_append (first second : List UInt8) :
    number (first ++ second) = number first * 256 ^ second.length + number second := by
  rw [number, List.foldl_append, foldl_eq_number]
  rfl

theorem number_cons (byte : UInt8) (bytes : List UInt8) :
    number (byte :: bytes) = byte.toNat * 256 ^ bytes.length + number bytes := by
  rw [← List.singleton_append, number_append]
  simp [number]

theorem number_lt (bytes : List UInt8) : number bytes < 256 ^ bytes.length := by
  induction bytes with
  | nil => simp [number]
  | cons byte bytes induction =>
      have byteLt : byte.toNat + 1 ≤ 256 := byte.toNat_lt
      calc number (byte :: bytes)
          < byte.toNat * 256 ^ bytes.length + 256 ^ bytes.length := by
            rw [number_cons]
            omega
        _ = (byte.toNat + 1) * 256 ^ bytes.length := by rw [Nat.add_mul, Nat.one_mul]
        _ ≤ 256 * 256 ^ bytes.length := Nat.mul_le_mul_right _ byteLt
        _ = 256 ^ (byte :: bytes).length := by rw [List.length_cons, Nat.pow_succ, Nat.mul_comm]

/-- Lists of one length that stand for the same number are equal. -/
theorem number_inj {first second : List UInt8} (sameLength : first.length = second.length)
    (same : number first = number second) : first = second := by
  induction first generalizing second with
  | nil => exact (List.length_eq_zero_iff.mp sameLength.symm).symm
  | cons byte bytes induction =>
      cases second with
      | nil => simp at sameLength
      | cons other others =>
          have sameLength : bytes.length = others.length := by simpa using sameLength
          rw [number_cons, number_cons, sameLength] at same
          have positive : 0 < 256 ^ others.length := Nat.pow_pos (by decide)
          have firstLt : number bytes < 256 ^ others.length := sameLength ▸ number_lt bytes
          have secondLt := number_lt others
          have sameByte : byte.toNat = other.toNat := by
            have quotients := congrArg (· / 256 ^ others.length) same
            simpa only [Nat.mul_comm _ (256 ^ others.length), Nat.mul_add_div positive,
              Nat.div_eq_of_lt firstLt, Nat.div_eq_of_lt secondLt, Nat.add_zero] using quotients
          rw [sameByte] at same
          rw [UInt8.toNat_inj.mp sameByte, induction sameLength (by omega)]

theorem toNat_lt (data : ByteArray) : toNat data < 256 ^ data.size := by
  rw [toNat_eq_number]
  exact number_lt data.data.toList

theorem toNat_inj {first second : ByteArray} (sameSize : first.size = second.size)
    (same : toNat first = toNat second) : first = second := by
  rw [toNat_eq_number, toNat_eq_number] at same
  exact ByteArray.ext (Array.toList_inj.mp (number_inj sameSize same))

theorem toNat_append (first second : ByteArray) :
    toNat (first ++ second) = toNat first * 256 ^ second.size + toNat second := by
  simp only [toNat_eq_number, ByteArray.toList_data_append, number_append]
  rfl

/-! ## Words -/

@[simp] theorem size_ofWord (word : UInt32) : (ofWord word).size = 4 := rfl

@[simp] theorem size_ofDoubleWord (word : UInt64) : (ofDoubleWord word).size = 8 := by
  simp [ofDoubleWord]

@[simp] theorem toNat_ofWord (word : UInt32) : toNat (ofWord word) = word.toNat := by
  have bound : word.toNat < 2 ^ 32 := word.toNat_lt
  simp [toNat_eq_number, ofWord, ofList, number, Nat.shiftRight_eq_div_pow]
  omega

@[simp] theorem toNat_ofDoubleWord (word : UInt64) :
    toNat (ofDoubleWord word) = word.toNat := by
  have bound : word.toNat < 2 ^ 64 := word.toNat_lt
  simp [ofDoubleWord, toNat_append, Nat.shiftRight_eq_div_pow]
  omega

/-- Four bytes are the bytes of the word they stand for. -/
theorem ofWord_toNat {data : ByteArray} (four : data.size = 4) :
    ofWord (UInt32.ofNat (toNat data)) = data := by
  apply toNat_inj (by simp [four])
  have bound := toNat_lt data
  rw [four] at bound
  rw [toNat_ofWord, UInt32.toNat_ofNat_of_lt' bound]

/-- Eight bytes are the bytes of the double word they stand for. -/
theorem ofDoubleWord_toNat {data : ByteArray} (eight : data.size = 8) :
    ofDoubleWord (UInt64.ofNat (toNat data)) = data := by
  apply toNat_inj (by simp [eight])
  have bound := toNat_lt data
  rw [eight] at bound
  rw [toNat_ofDoubleWord, UInt64.toNat_ofNat_of_lt' bound]

end Depot.Bytes

namespace Depot.Footer

/-! ## Records -/

/-- Sixteen bytes as three numbers: where a record has its magic number, its algorithm and its
checksum. -/
def words (first algorithm : UInt32) (checksum : UInt64) : ByteArray :=
  Bytes.ofWord first ++ Bytes.ofWord algorithm ++ Bytes.ofDoubleWord checksum

section Words

variable (first algorithm : UInt32) (checksum : UInt64)

@[simp] theorem size_words : (words first algorithm checksum).size = size := by
  simp [words, size]

theorem extract_first : (words first algorithm checksum).extract 0 4 = Bytes.ofWord first := by
  rw [words, ByteArray.append_assoc]
  exact ByteArray.extract_append_eq_left rfl

theorem extract_algorithm :
    (words first algorithm checksum).extract 4 8 = Bytes.ofWord algorithm := by
  have nothing : (Bytes.ofWord first).extract 4 8 = .empty := rfl
  rw [words, ByteArray.append_assoc, ByteArray.extract_append, nothing, ByteArray.empty_append]
  exact ByteArray.extract_append_eq_left rfl

theorem extract_checksum :
    (words first algorithm checksum).extract 8 16 = Bytes.ofDoubleWord checksum :=
  ByteArray.extract_append_eq_right rfl (by simp)

end Words

/-- All that has the size of a record is three numbers. -/
theorem exists_words {data : ByteArray} (sixteen : data.size = size) :
    ∃ first algorithm checksum, data = words first algorithm checksum := by
  have sixteen : data.size = 16 := sixteen
  have first : (data.extract 0 4).size = 4 := by simp [sixteen]
  have algorithm : (data.extract 4 8).size = 4 := by simp [sixteen]
  have checksum : (data.extract 8 16).size = 8 := by simp [sixteen]
  refine ⟨.ofNat (Bytes.toNat (data.extract 0 4)), .ofNat (Bytes.toNat (data.extract 4 8)),
    .ofNat (Bytes.toNat (data.extract 8 16)), Eq.symm ?_⟩
  rw [words, Bytes.ofWord_toNat first, Bytes.ofWord_toNat algorithm,
    Bytes.ofDoubleWord_toNat checksum, ByteArray.extract_append_extract]
  change data.extract 0 8 ++ data.extract 8 16 = data
  rw [ByteArray.extract_append_extract]
  simp [← sixteen]

theorem words_inj {first otherFirst algorithm otherAlgorithm : UInt32}
    {checksum otherChecksum : UInt64} :
    words first algorithm checksum = words otherFirst otherAlgorithm otherChecksum ↔
      first = otherFirst ∧ algorithm = otherAlgorithm ∧ checksum = otherChecksum := by
  refine ⟨fun same => ⟨?_, ?_, ?_⟩, fun ⟨first, second, third⟩ => by rw [first, second, third]⟩
  · have numbers := congrArg (fun data => Bytes.toNat (data.extract 0 4)) same
    simpa [extract_first, UInt32.toNat_inj] using numbers
  · have numbers := congrArg (fun data => Bytes.toNat (data.extract 4 8)) same
    simpa [extract_algorithm, UInt32.toNat_inj] using numbers
  · have numbers := congrArg (fun data => Bytes.toNat (data.extract 8 16)) same
    simpa [extract_checksum, UInt64.toNat_inj] using numbers

theorem shiftRight_eq_zero_iff {checksum : UInt64} :
    checksum >>> 32 = 0 ↔ checksum.toNat < 2 ^ 32 := by
  rw [← UInt64.toNat_inj]
  simp [Nat.shiftRight_eq_div_pow]

/-- How three numbers are read: the first of them that is none of a record is the reason why they are
none. -/
theorem decode_words (first algorithm : UInt32) (checksum : UInt64) :
    decode (words first algorithm checksum) =
      if first ≠ magic then .error (.magic first)
      else if algorithm ≠ crc32Algorithm then .error (.algorithm algorithm)
      else if checksum.toNat < 2 ^ 32 then .ok ⟨algorithm, checksum⟩
      else .error (.illegalChecksum checksum) := by
  rw [decode, if_neg (by simp)]
  simp only [extract_first, extract_algorithm, extract_checksum, Bytes.toNat_ofWord,
    Bytes.toNat_ofDoubleWord, UInt32.ofNat_toNat, UInt64.ofNat_toNat, ne_eq,
    shiftRight_eq_zero_iff, ite_not]

theorem decode_of_size {data : ByteArray} (other : data.size ≠ size) :
    decode data = .error (.length data.size) := if_pos other

theorem encode_eq_words (footer : Footer) :
    footer.encode = words magic footer.algorithm footer.checksum := rfl

@[simp] theorem size_encode (footer : Footer) : footer.encode.size = size := size_words _ _ _

/-- What is read as a record is its written form, its algorithm is CRC-32 and its checksum has 32
bits. -/
theorem decode_eq_ok_iff {data : ByteArray} {footer : Footer} : decode data = .ok footer ↔
    data = footer.encode ∧ footer.algorithm = crc32Algorithm ∧ footer.checksum.toNat < 2 ^ 32 := by
  by_cases sixteen : data.size = size
  · rcases exists_words sixteen with ⟨first, algorithm, checksum, rfl⟩
    rw [decode_words, encode_eq_words, words_inj]
    split_ifs with noMagic noCrc small
    · exact ⟨nofun, fun written => absurd written.1.1 noMagic⟩
    · exact ⟨nofun, fun written => absurd (written.1.2.1.trans written.2.1) noCrc⟩
    · constructor
      · rintro ⟨⟩
        exact ⟨⟨Decidable.not_not.mp noMagic, rfl, rfl⟩, Decidable.not_not.mp noCrc, small⟩
      · rintro ⟨⟨-, rfl, rfl⟩, -⟩
        rfl
    · exact ⟨nofun, fun written => absurd (written.1.2.2 ▸ written.2.2) small⟩
  · rw [decode_of_size sixteen]
    refine ⟨nofun, fun written => absurd ?_ sixteen⟩
    rw [written.1, size_encode]

/-- What can be read as a record is the written form of that record, and its algorithm is
CRC-32. -/
theorem encode_of_decode {data : ByteArray} {footer : Footer} (decoded : decode data = .ok footer) :
    footer.encode = data ∧ footer.algorithm = crc32Algorithm :=
  have ⟨written, isCrc, _⟩ := decode_eq_ok_iff.mp decoded
  ⟨written.symm, isCrc⟩

theorem extract_covered (footer : Footer) (isCrc : footer.algorithm = crc32Algorithm) :
    footer.encode.extract 0 coveredSize = covered := by
  rw [encode, isCrc]
  exact ByteArray.extract_append_eq_left rfl

/-- A record with a CRC-32 checksum is read back from its bytes. -/
theorem decode_encode (checksum : UInt32) :
    decode (crc32 checksum).encode = .ok (crc32 checksum) := by
  refine decode_eq_ok_iff.mpr ⟨rfl, rfl, ?_⟩
  simpa [crc32] using checksum.toNat_lt

end Depot.Footer
