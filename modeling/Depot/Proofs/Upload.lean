import Depot.Transfer
import Depot.Proofs.Failures
import Depot.Proofs.Reading
import Depot.Proofs.Records

/-!
An upload stores the whole file or nothing. The store is first touched when the upload is finished,
and by then the written bytes are those of the file: its body was passed through, and its record
was made anew from one that was found right, which gives the same bytes.
-/

namespace Depot

/-- The bytes of a file: as many of its stream as its length says. -/
def IndexInput.content (input : IndexInput) : ByteArray := input.reader.upcoming input.length

namespace Transfer

open Memory Dialogue

variable {before after : Watched}

/-- A record that is found right is stored with the bytes it was read from. -/
theorem checkedFooter_eq_ok {name : String} {register : UInt32} {bytes : ByteArray}
    {footer : Footer} (checked : checkedFooter name register bytes = .ok footer) :
    footer.encode = bytes := by
  simp only [checkedFooter] at checked
  split at checked
  · cases checked
  next isRight =>
    cases checked
    rcases bind_eq_ok_iff.mp isRight with ⟨found, decoded, verified⟩
    rcases Footer.encode_of_decode decoded with ⟨written, isCrc⟩
    rw [Footer.verify] at verified
    split at verified
    · next sameChecksum => rw [Footer.crc32, ← isCrc, ← sameChecksum, written]
    · cases verified

/-- The record of a file is found right behind its body. -/
theorem checkedFooter_ofBody (name : String) (body : ByteArray) :
    checkedFooter name (Crc32.update Crc32.start body) (Footer.ofBody body).encode =
      .ok (Footer.ofBody body) := by
  have decoded := Footer.decode_encode
    (Crc32.finish (Crc32.update (Crc32.update Crc32.start body) Footer.covered))
  have same : (Footer.ofBody body).encode.extract 0 Footer.coveredSize = Footer.covered :=
    Footer.extract_covered _ rfl
  rw [← Footer.ofBody] at decoded
  have checked : (Footer.decode (Footer.ofBody body).encode >>=
      fun footer => footer.verify (Footer.ofBody body).checksum) = .ok () := by
    rw [decoded]
    exact if_pos rfl
  simp only [checkedFooter, same]
  split
  next error failed => cases checked.symm.trans failed
  · rfl

/-- Writing the body asks only for writes. If it succeeds, the next bytes of the reader have been
written and taken into the checksum. -/
theorem run_writeBody {chunkSize remaining : Nat} {reader : Reader} {register : UInt32}
    {upload written : Upload} {result : Except RepoError (Reader × UInt32)}
    (run : Run Answered (writeBody chunkSize reader register upload remaining) before
      (result, written) after) :
    after.store = before.store ∧ written.key = upload.key ∧
      ∀ next found, result = .ok (next, found) →
        remaining ≤ reader.remaining ∧ next = reader.advance remaining ∧
          written.pending = upload.pending ++ reader.upcoming remaining := by
  induction remaining using Nat.strongRecOn generalizing reader register upload before with
  | ind remaining induction =>
      rw [writeBody] at run
      split at run
      · next nothing =>
        rcases Run.done_iff.mp run with ⟨same, rfl⟩
        cases same
        refine ⟨rfl, rfl, ?_⟩
        intro _ _ same
        cases same
        simp [nothing]
      next something =>
        simp only at run
        generalize chunk : min remaining (max chunkSize 1) = size at run
        cases read : reader.readExactly size with
        | error cause =>
            rw [read] at run
            rcases Run.done_iff.mp run with ⟨same, rfl⟩
            cases same
            exact ⟨rfl, rfl, by simp⟩
        | ok found =>
            rcases found with ⟨bytes, next⟩
            rcases Reader.readExactly_eq_ok read with ⟨there, rfl, rfl⟩
            rw [read] at run
            rcases Run.ask_iff.mp run with ⟨reply, middle, asked, rest⟩
            rcases asked.write with ⟨rfl, rfl⟩ | ⟨error, rfl, rfl⟩
            · rcases induction (remaining - size) (by omega) rest with ⟨unchanged, sameKey, whole⟩
              refine ⟨unchanged, sameKey, fun next found success => ?_⟩
              rcases whole next found success with ⟨thereToo, rfl, pending⟩
              have sum : size + (remaining - size) = remaining := by omega
              rw [Reader.remaining_advance] at thereToo
              rw [Reader.advance_advance, sum]
              refine ⟨by omega, rfl, ?_⟩
              rw [pending, ByteArray.append_assoc, Reader.upcoming_append, sum]
            · rcases Run.done_iff.mp rest with ⟨same, rfl⟩
              cases same
              exact ⟨rfl, rfl, by simp⟩

/-- Writing a file asks only for writes. If it succeeds, the bytes of the file have been written. -/
theorem run_writeFile {chunkSize footerLength : Nat} {source : IndexInput}
    {upload written : Upload} {result : Except RepoError Nat}
    (longer : footerLength < source.length)
    (run : Run Answered (writeFile chunkSize source footerLength upload) before
      (result, written) after) :
    after.store = before.store ∧ written.key = upload.key ∧
      ∀ size, result = .ok size →
        size = source.length ∧ source.length ≤ source.reader.remaining ∧
          written.pending = upload.pending ++ source.content := by
  rcases Run.andThen_iff.mp run with ⟨⟨body, middleUpload⟩, middle, bodyRun, rest⟩
  rcases run_writeBody bodyRun with ⟨unchanged, sameKey, bodyWritten⟩
  cases body with
  | error error =>
      rcases Run.done_iff.mp rest with ⟨same, rfl⟩
      cases same
      exact ⟨unchanged, sameKey, by simp⟩
  | ok body =>
      rcases body with ⟨reader, register⟩
      rcases bodyWritten _ _ rfl with ⟨there, rfl, pending⟩
      simp only at rest
      split at rest
      · rcases Run.done_iff.mp rest with ⟨same, rfl⟩
        cases same
        exact ⟨unchanged, sameKey, by simp⟩
      next footer behind read =>
        rcases Reader.readExactly_eq_ok read with ⟨thereToo, rfl, -⟩
        split at rest
        · rcases Run.done_iff.mp rest with ⟨same, rfl⟩
          cases same
          exact ⟨unchanged, sameKey, by simp⟩
        next footer checked =>
          have sameBytes := checkedFooter_eq_ok checked
          have sixteen : footerLength = Footer.size := by
            rw [← footer.size_encode, sameBytes, Reader.size_upcoming thereToo]
          rcases Run.andThen_iff.mp rest with ⟨⟨reply, last⟩, final, asked, ending⟩
          rcases Run.done_iff.mp ending with ⟨same, rfl⟩
          cases same
          rcases (Run.question_iff.mp asked).write with ⟨rfl, same⟩ | ⟨error, same, rfl⟩
          · cases same
            refine ⟨unchanged, sameKey, ?_⟩
            intro _ same
            cases same
            have sum : source.length - footerLength + footerLength = source.length := by omega
            rw [Reader.remaining_advance] at thereToo
            refine ⟨by simp only [← sixteen, sum], by omega, ?_⟩
            simp only [pending, sameBytes, ByteArray.append_assoc, Reader.upcoming_append, sum,
              IndexInput.content]
          · cases same
            exact ⟨unchanged, sameKey, by simp [Except.map]⟩

/-- A failed upload leaves the store as it was; a successful one stores the bytes of the file. -/
theorem run_intoStore {chunkSize footerLength : Nat} {source : IndexInput} {target : ObjectKey}
    {result : Except RepoError Nat}
    (run : Run Answered (intoStore chunkSize source footerLength target).run before result after) :
    (∀ error, result = .error error → after.store = before.store) ∧
      ∀ size, result = .ok size → size = source.length ∧
        source.length ≤ source.reader.remaining ∧
        after.store = before.store.insert target source.content := by
  simp only [intoStore, ExceptT.run_mk] at run
  split at run
  · rcases Run.done_iff.mp run with ⟨rfl, rfl⟩
    simp
  next notShort =>
    rcases Run.andThen_iff.mp run with ⟨opened, middle, opening, rest⟩
    rcases Yields.openWrite target _ _ opening with ⟨rfl, rfl⟩ | ⟨error, rfl, rfl⟩
    · rcases Run.andThen_iff.mp rest with ⟨⟨streamed, upload⟩, last, writing, rest⟩
      rcases run_writeFile (by omega) writing with ⟨unchanged, sameKey, whole⟩
      cases streamed with
      | error error =>
          rcases Run.andThen_iff.mp rest with ⟨_, final, aborting, ending⟩
          rcases Run.done_iff.mp ending with ⟨rfl, rfl⟩
          rw [(Run.question_iff.mp aborting).abort, unchanged]
          simp
      | ok size =>
          rcases whole size rfl with ⟨rightSize, there, pending⟩
          rcases Run.andThen_iff.mp rest with ⟨finished, final, finishing, ending⟩
          rcases Yields.finish upload _ _ finishing with ⟨rfl, rfl⟩ | ⟨error, rfl, rfl⟩
          · rcases Run.done_iff.mp ending with ⟨rfl, rfl⟩
            refine ⟨by simp, ?_⟩
            intro _ same
            cases same
            refine ⟨rightSize, there, ?_⟩
            simp [unchanged, sameKey, pending, Upload.begin]
          · rcases Run.done_iff.mp ending with ⟨rfl, rfl⟩
            simp [unchanged]
    · rcases Run.done_iff.mp rest with ⟨rfl, rfl⟩
      simp

end Transfer

end Depot
