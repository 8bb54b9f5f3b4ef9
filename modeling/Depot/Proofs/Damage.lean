import Depot.Proofs.Bursts
import Depot.Proofs.Intact

/-!
Files that have been damaged at one place. If up to four bytes that follow one another are changed
in a file with its record, the file is not intact any more: either the record is changed where all
records agree or where its checksum stands, and the body is not; or the body is changed, and the
part of the record that holds the checksum is out of reach. So an upload refuses the file as
corrupt.
-/

namespace Depot.Footer

variable {body other damaged : ByteArray}

/-- All records begin with the same four bytes. -/
theorem getElem?_encode {index : Nat} (inside : index < 4) (first second : Footer) :
    first.encode.data[index]? = second.encode.data[index]? := by
  have front (footer : Footer) :
      footer.encode.data[index]? = (Bytes.ofWord magic).data[index]? := by
    rw [encode, ByteArray.append_assoc, ByteArray.data_append, Array.getElem?_append_left]
    exact inside
  rw [front, front]

/-- Records of different checksums have different bytes. -/
theorem crc32_of_encode {first second : UInt32}
    (same : (crc32 first).encode = (crc32 second).encode) : first = second := by
  have read : Except.ok (crc32 first) = (.ok (crc32 second) : Except FooterError Footer) := by
    rw [← decode_encode, same, decode_encode]
  have checksums := congrArg (·.checksum.toUInt32) (Except.ok.inj read)
  simpa [crc32] using checksums

/-- Bodies with one record leave one register. -/
theorem update_of_encode (same : (ofBody body).encode = (ofBody other).encode) :
    Crc32.update Crc32.start body = Crc32.update Crc32.start other := by
  exact Crc32.update_injective covered ((UInt32.xor_left_inj _).mp (crc32_of_encode same))

theorem size_sealed (body : ByteArray) : (Footer.sealed body).size = body.size + size := by
  rw [Footer.sealed, ByteArray.size_append, size_encode]

theorem getElem?_sealed_body {index : Nat} (inside : index < body.size) :
    (Footer.sealed body).data[index]? = body.data[index]? := by
  rw [Footer.sealed, ByteArray.data_append, Array.getElem?_append_left inside]

theorem getElem?_sealed_record (index : Nat) :
    (Footer.sealed body).data[body.size + index]? = (ofBody body).encode.data[index]? := by
  have behind : body.data.size ≤ body.size + index := Nat.le_add_right _ _
  have place : body.size + index - body.data.size = index := Nat.add_sub_cancel_left _ _
  rw [Footer.sealed, ByteArray.data_append, Array.getElem?_append_right behind, place]

/-- Damage that leaves a file a body with some record has hit the body. -/
theorem isBurst_body {width : Nat}
    (isBurst : Bytes.IsBurst width (Footer.sealed body) (Footer.sealed other)) :
    Bytes.IsBurst width body other := by
  have sameSize : other.size = body.size := by
    have sizes := isBurst.sameSize
    rw [size_sealed, size_sealed] at sizes
    omega
  refine ⟨sameSize, ?_, ?_⟩
  · rintro rfl
    exact isBurst.changed rfl
  · rcases isBurst.within with ⟨start, within⟩
    refine ⟨start, fun index differs => within index ?_⟩
    by_cases inside : index < body.size
    · have alsoInside : index < other.size := by omega
      rwa [getElem?_sealed_body inside, getElem?_sealed_body alsoInside]
    · have outside : body.size ≤ index := Nat.not_lt.mp inside
      have alsoOutside : other.size ≤ index := by omega
      rw [Array.getElem?_eq_none outside, Array.getElem?_eq_none alsoOutside] at differs
      exact absurd rfl differs

/-- Damage to a body does not reach the checksum in the record behind it, so the record is another
one only if it has been computed anew. -/
theorem encode_of_isBurst
    (isBurst : Bytes.IsBurst 4 (Footer.sealed body) (Footer.sealed other)) :
    (ofBody other).encode = (ofBody body).encode := by
  have inBody := isBurst_body isBurst
  rcases isBurst.within with ⟨start, within⟩
  have hit : start < body.size := by
    rcases inBody.exists_changed with ⟨index, inside, differs⟩
    rw [← getElem?_sealed_body inside, ← getElem?_sealed_body (inBody.sameSize ▸ inside)] at differs
    exact lt_of_le_of_lt (within index differs).1 inside
  apply ByteArray.ext
  apply Array.ext_getElem?
  intro index
  by_cases shared : index < 4
  · exact getElem?_encode shared _ _
  · by_contra differs
    rw [← getElem?_sealed_record, ← getElem?_sealed_record, inBody.sameSize] at differs
    have inReach := within _ differs
    omega

/-- A damaged file is not intact. -/
theorem not_isIntact_of_isBurst (isBurst : Bytes.IsBurst 4 (Footer.sealed body) damaged) :
    ¬IsIntact damaged := by
  rintro ⟨other, -, rfl⟩
  exact Crc32.update_ne_of_isBurst (isBurst_body isBurst)
    (update_of_encode (encode_of_isBurst isBurst))

end Depot.Footer

namespace Depot.Transfer

open Memory

/-- A file that has been damaged within four bytes is refused as corrupt, and nothing of it is
stored. -/
theorem intoStore_refuses_damaged (chunkSize : Nat) (body : ByteArray) (source : IndexInput)
    (target : ObjectKey) (store : Store)
    (isDamaged : Bytes.IsBurst 4 (Footer.sealed body) source.content)
    (there : source.length ≤ source.reader.remaining) :
    ∃ reason, store.run (intoStore chunkSize source Footer.size target).run =
      (.error (.corruptSource source.name reason), store) := by
  rcases Nat.lt_or_ge Footer.size source.length with longer | notLonger
  · rcases run_intoStore_of_le store chunkSize target longer there with
      ⟨isRecord, -⟩ | ⟨-, refused⟩
    · have isIntact := ((isRecord_iff_isIntact longer there).mp isRecord).2
      exact absurd isIntact (Footer.not_isIntact_of_isBurst isDamaged)
    · exact refused
  -- Only the file without a body is as short as that.
  · rw [intoStore_of_le chunkSize target notLonger]
    exact ⟨_, rfl⟩

/-! Damage that goes across the end of a body of three bytes, in a stream that hands out five bytes
at once and goes on behind the file. -/

private def smudge (damaged : ByteArray) : ByteArray :=
  "i".toUTF8 ++ damaged ++ (.mk #[0x93, 0xE8] ++ Bytes.ofWord Footer.crc32Algorithm ++
    Bytes.ofDoubleWord (Footer.ofBody "ink".toUTF8).checksum)

private def smudged : IndexInput where
  name := "f"
  length := 19
  reader := (Reader.ofBytes (smudge (.mk #[0x6E, 0x6C, 0xC1, 0x28]) ++ "blot".toUTF8)).withPace 5

theorem intoStore_refuses_damaged_smudged :
    Bytes.IsBurst 4 (Footer.sealed "ink".toUTF8) smudged.content ∧
      ∃ reason, Store.empty.run (intoStore 2 smudged Footer.size ⟨"a/f"⟩).run =
        (.error (.corruptSource "f" reason), .empty) := by
  have isSealed : Footer.sealed "ink".toUTF8 = smudge (.mk #[0x6E, 0x6B, 0xC0, 0x28]) := by
    have front : "ink".toUTF8 ++ Bytes.ofWord Footer.magic =
        "i".toUTF8 ++ .mk #[0x6E, 0x6B, 0xC0, 0x28] ++ .mk #[0x93, 0xE8] := by decide +kernel
    rw [Footer.sealed, Footer.encode, smudge]
    simp only [← ByteArray.append_assoc, front]
    rfl
  have isContent : smudged.content = smudge (.mk #[0x6E, 0x6C, 0xC1, 0x28]) :=
    ByteArray.extract_append_eq_left (by decide +kernel)
  have isDamaged : Bytes.IsBurst 4 (Footer.sealed "ink".toUTF8) smudged.content := by
    rw [isSealed, isContent]
    exact Bytes.isBurst_of_append rfl (by decide +kernel) (by decide +kernel)
  exact ⟨isDamaged, intoStore_refuses_damaged 2 _ smudged ⟨"a/f"⟩ .empty isDamaged
    (by decide +kernel)⟩

end Depot.Transfer
