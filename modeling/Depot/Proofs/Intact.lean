import Depot.Proofs.Upload

/-!
Which files an upload to a store in memory takes. A file is intact if it is a body that is not empty
with the record of that body behind it. An upload takes exactly the intact files and stores them byte
for byte, whatever the sizes of the chunks and of the pieces that the stream hands out; any other file
is refused, and nothing of it is stored.
-/

namespace Depot

/-- Whether bytes are a file that is intact: a body and its record. -/
def Footer.IsIntact (content : ByteArray) : Prop :=
  ∃ body, body.size ≠ 0 ∧ content = Footer.sealed body

namespace Transfer

open Memory Dialogue

variable {footerLength remaining : Nat} {source : IndexInput} {reader : Reader}

/-! ## Records -/

/-- Behind a body only one record is found right, which is its own. -/
theorem checkedFooter_eq_ok_iff {name : String} {body record : ByteArray} {footer : Footer} :
    checkedFooter name (Crc32.update Crc32.start body) record = .ok footer ↔
      footer = Footer.ofBody body ∧ record = (Footer.ofBody body).encode := by
  constructor
  · intro checked
    have sameBytes := checkedFooter_eq_ok checked
    simp only [checkedFooter] at checked
    split at checked
    · cases checked
    · cases checked
      have isCovered : record.extract 0 Footer.coveredSize = Footer.covered := by
        rw [← sameBytes]
        exact Footer.extract_covered _ rfl
      rw [isCovered] at sameBytes ⊢
      exact ⟨rfl, sameBytes.symm⟩
  · intro given
    rcases given with ⟨rfl, rfl⟩
    exact checkedFooter_ofBody name body

/-- A record that is not found right makes its source corrupt. -/
theorem checkedFooter_eq_error {name : String} {register : UInt32} {record : ByteArray}
    {error : RepoError}
    (refused : checkedFooter name register record = .error error) :
    ∃ reason, error = .corruptSource name reason := by
  simp only [checkedFooter] at refused
  split at refused
  · cases refused
    exact ⟨_, rfl⟩
  · cases refused

/-! ## Runs on a store -/

section

variable (store : Store) (chunkSize : Nat) (register : UInt32) (upload : Upload)

/-- The body of a file passes through as it is, and the register has taken it in. -/
theorem run_writeBody_of_le (there : remaining ≤ reader.remaining) :
    store.run (writeBody chunkSize reader register upload remaining) =
      ((.ok (reader.advance remaining, Crc32.update register (reader.upcoming remaining)),
        { upload with pending := upload.pending ++ reader.upcoming remaining }), store) := by
  induction remaining using Nat.strongRecOn generalizing reader register upload with
  | ind remaining induction =>
      rw [writeBody]
      by_cases nothing : remaining = 0
      · have unchanged : Crc32.update register .empty = register := by
          rw [Crc32.update, Bytes.fold_eq_foldl]
          rfl
        rw [if_pos nothing, nothing, Reader.upcoming_zero, ByteArray.append_empty, unchanged]
        rfl
      · rw [if_neg nothing]
        simp only
        generalize chunk : min remaining (max chunkSize 1) = size
        have sum : size + (remaining - size) = remaining := by omega
        have rest : remaining - size ≤ (reader.advance size).remaining := by
          rw [Reader.remaining_advance]
          omega
        have goesOn := induction (remaining - size) (by omega)
          (Crc32.update register (reader.upcoming size))
          { upload with pending := upload.pending ++ reader.upcoming size } rest
        rw [Reader.readExactly_of_le (by omega)]
        rw [Reader.advance_advance, sum, ← Crc32.update_append, ByteArray.append_assoc,
          Reader.upcoming_append, sum] at goesOn
        exact goesOn

/-- A stream that ends within the body is noticed there. -/
theorem run_writeBody_of_lt (short : reader.remaining < remaining) :
    ∃ left, store.run (writeBody chunkSize reader register upload remaining) =
      ((.error (.io (reader.failure.getD .earlyEnd)), left), store) := by
  induction remaining using Nat.strongRecOn generalizing reader register upload with
  | ind remaining induction =>
      rw [writeBody, if_neg (by omega)]
      simp only
      generalize chunk : min remaining (max chunkSize 1) = size
      rcases Nat.lt_or_ge reader.remaining size with within | there
      · rw [Reader.readExactly_of_lt within]
        exact ⟨upload, rfl⟩
      · have shorter : (reader.advance size).remaining < remaining - size := by
          rw [Reader.remaining_advance]
          omega
        rw [Reader.readExactly_of_le there]
        exact induction (remaining - size) (by omega) _ _ shorter

/-- The bytes of a file before its record. -/
def bodyOf (source : IndexInput) (footerLength : Nat) : ByteArray :=
  source.reader.upcoming (source.length - footerLength)

/-- The bytes of a file that should be its record. -/
def recordOf (source : IndexInput) (footerLength : Nat) : ByteArray :=
  (source.reader.advance (source.length - footerLength)).upcoming footerLength

theorem bodyOf_append_recordOf (longer : footerLength < source.length) :
    bodyOf source footerLength ++ recordOf source footerLength = source.content := by
  have sum : source.length - footerLength + footerLength = source.length := by omega
  rw [bodyOf, recordOf, Reader.upcoming_append, sum, IndexInput.content]

/-- A file that is there as a whole is written if its record is found right, with the record made
anew. -/
theorem run_writeFile_of_le (longer : footerLength < source.length)
    (there : source.length ≤ source.reader.remaining) :
    ∃ left, store.run (writeFile chunkSize source footerLength upload) =
      match checkedFooter source.name (Crc32.update Crc32.start (bodyOf source footerLength))
          (recordOf source footerLength) with
      | .error error => ((.error error, left), store)
      | .ok footer =>
          ((.ok (source.length - footerLength + Footer.size),
            { upload with
              pending := upload.pending ++ bodyOf source footerLength ++ footer.encode }),
            store) := by
  have bodyThere : source.length - footerLength ≤ source.reader.remaining := by omega
  have recordThere : footerLength ≤
      (source.reader.advance (source.length - footerLength)).remaining := by
    rw [Reader.remaining_advance]
    omega
  have body := run_writeBody_of_le store chunkSize Crc32.start upload bodyThere
  have record := Reader.readExactly_of_le recordThere
  refine ⟨{ upload with pending := upload.pending ++ bodyOf source footerLength }, ?_⟩
  rw [Store.run] at body
  simp only [Store.run, writeFile, bind_eq_andThen, run_andThen, body, record]
  rw [← bodyOf, ← recordOf]
  cases checkedFooter source.name (Crc32.update Crc32.start (bodyOf source footerLength))
    (recordOf source footerLength) <;> rfl

/-- A stream that ends within a file is noticed, in the body or in the record. -/
theorem run_writeFile_of_lt (longer : footerLength < source.length)
    (short : source.reader.remaining < source.length) :
    ∃ left, store.run (writeFile chunkSize source footerLength upload) =
      ((.error (.io (source.reader.failure.getD .earlyEnd)), left), store) := by
  simp only [Store.run, writeFile, bind_eq_andThen, run_andThen]
  rcases Nat.lt_or_ge source.reader.remaining (source.length - footerLength) with within | there
  · rcases run_writeBody_of_lt store chunkSize Crc32.start upload within with ⟨left, body⟩
    rw [Store.run] at body
    rw [body]
    exact ⟨left, rfl⟩
  · have recordShort : (source.reader.advance (source.length - footerLength)).remaining <
        footerLength := by
      rw [Reader.remaining_advance]
      omega
    have body := run_writeBody_of_le store chunkSize Crc32.start upload there
    have record := Reader.readExactly_of_lt recordShort
    rw [Store.run] at body
    rw [body]
    simp only [record]
    exact ⟨_, rfl⟩

end

/-! ## Uploads -/

section

variable (store : Store) (chunkSize : Nat) (target : ObjectKey)

/-- A file that is not longer than its record is refused before the store is asked for anything. -/
theorem intoStore_of_le (short : source.length ≤ footerLength) :
    (intoStore chunkSize source footerLength target).run = .done (.error (tooSmall source)) := by
  simp only [intoStore, ExceptT.run_mk, if_pos short]
  rfl

theorem run_intoStore_of_written {size : Nat} {left : Upload}
    (longer : footerLength < source.length)
    (written : store.run (writeFile chunkSize source footerLength (.begin target)) =
      ((.ok size, left), store)) :
    store.run (intoStore chunkSize source footerLength target).run =
      (.ok size, store.insert left.key left.pending) := by
  have opened : (Client.openWrite target).run.run Store.respond store =
      (.ok (.begin target), store) := rfl
  rw [Store.run] at written
  simp only [Store.run, intoStore, ExceptT.run_mk, if_neg (Nat.not_le.mpr longer),
    bind_eq_andThen, run_andThen, opened, written]
  rfl

theorem run_intoStore_of_failed {error : RepoError} {left : Upload}
    (longer : footerLength < source.length)
    (failed : store.run (writeFile chunkSize source footerLength (.begin target)) =
      ((.error error, left), store)) :
    store.run (intoStore chunkSize source footerLength target).run =
      (.error (error.inTransfer target.text), store) := by
  have opened : (Client.openWrite target).run.run Store.respond store =
      (.ok (.begin target), store) := rfl
  rw [Store.run] at failed
  simp only [Store.run, intoStore, ExceptT.run_mk, if_neg (Nat.not_le.mpr longer),
    bind_eq_andThen, run_andThen, opened, failed]
  rfl

/-- A file whose stream ends within it fails as a transfer to its key. -/
theorem run_intoStore_of_lt (longer : footerLength < source.length)
    (short : source.reader.remaining < source.length) :
    store.run (intoStore chunkSize source footerLength target).run =
      (.error (.transfer target.text (.io (source.reader.failure.getD .earlyEnd))), store) := by
  rcases run_writeFile_of_lt store chunkSize (.begin target) longer short with ⟨left, failed⟩
  exact run_intoStore_of_failed store chunkSize target longer failed

/-- A file that is there as a whole is stored if it is a body with its record, and corrupt else. -/
theorem run_intoStore_of_le (longer : footerLength < source.length)
    (there : source.length ≤ source.reader.remaining) :
    recordOf source footerLength = (Footer.ofBody (bodyOf source footerLength)).encode ∧
        store.run (intoStore chunkSize source footerLength target).run =
          (.ok source.length, store.insert target source.content) ∨
      recordOf source footerLength ≠ (Footer.ofBody (bodyOf source footerLength)).encode ∧
        ∃ reason, store.run (intoStore chunkSize source footerLength target).run =
          (.error (.corruptSource source.name reason), store) := by
  rcases run_writeFile_of_le store chunkSize (.begin target) longer there with ⟨left, written⟩
  cases checked : checkedFooter source.name (Crc32.update Crc32.start (bodyOf source footerLength))
      (recordOf source footerLength) with
  | ok footer =>
      rcases checkedFooter_eq_ok_iff.mp checked with ⟨rfl, isRecord⟩
      have sixteen : Footer.size = footerLength := by
        rw [← Footer.size_encode (Footer.ofBody (bodyOf source footerLength)), ← isRecord]
        exact Reader.size_upcoming (by rw [Reader.remaining_advance]; omega)
      have sum : source.length - footerLength + Footer.size = source.length := by omega
      rw [checked] at written
      simp only [Upload.begin, ByteArray.empty_append, ← isRecord, sum,
        bodyOf_append_recordOf longer] at written
      exact .inl ⟨isRecord,
        run_intoStore_of_written store chunkSize target longer written⟩
  | error error =>
      rcases checkedFooter_eq_error checked with ⟨reason, rfl⟩
      rw [checked] at written
      refine .inr ⟨?_, reason, run_intoStore_of_failed store chunkSize target longer written⟩
      intro isRecord
      rw [checkedFooter_eq_ok_iff.mpr ⟨rfl, isRecord⟩] at checked
      cases checked

end

/-- What is taken for a record is the record of what is taken for a body exactly if the file is intact
and records have their right length. -/
theorem isRecord_iff_isIntact (longer : footerLength < source.length)
    (there : source.length ≤ source.reader.remaining) :
    recordOf source footerLength = (Footer.ofBody (bodyOf source footerLength)).encode ↔
      footerLength = Footer.size ∧ Footer.IsIntact source.content := by
  have bodySize : (bodyOf source footerLength).size = source.length - footerLength :=
    Reader.size_upcoming (by omega)
  have recordSize : (recordOf source footerLength).size = footerLength :=
    Reader.size_upcoming (by rw [Reader.remaining_advance]; omega)
  constructor
  · intro isRecord
    rw [isRecord, Footer.size_encode] at recordSize
    refine ⟨recordSize.symm, bodyOf source footerLength, by omega, ?_⟩
    rw [Footer.sealed, ← isRecord, bodyOf_append_recordOf longer]
  · intro given
    rcases given with ⟨rfl, body, -, isSealed⟩
    rw [← bodyOf_append_recordOf longer, Footer.sealed] at isSealed
    have sameSize : (bodyOf source Footer.size).size = body.size := by
      have sizes := congrArg ByteArray.size isSealed
      rw [ByteArray.size_append, ByteArray.size_append, recordSize, Footer.size_encode] at sizes
      omega
    have sameBody : bodyOf source Footer.size = body := by
      have fronts := congrArg (·.extract 0 body.size) isSealed
      simpa only [ByteArray.extract_append_eq_left sameSize.symm,
        ByteArray.extract_append_eq_left rfl] using fronts
    rw [sameBody] at isSealed ⊢
    exact (ByteArray.append_right_inj body).mp isSealed

/-- An upload to a store takes exactly the intact files that are longer than their record and there as
a whole, and stores them unchanged. Any other file is refused for the reason that it has: too short for
its record, too short for its length, or corrupt; and nothing of it is stored. -/
theorem intoStore_takes_intact (chunkSize footerLength : Nat) (source : IndexInput)
    (target : ObjectKey) (store : Store) :
    let upload := (intoStore chunkSize source footerLength target).run
    (source.length ≤ footerLength → upload = .done (.error (tooSmall source))) ∧
    (footerLength < source.length → source.reader.remaining < source.length →
      (store.run upload).1 =
        .error (.transfer target.text (.io (source.reader.failure.getD .earlyEnd)))) ∧
    (footerLength < source.length → source.length ≤ source.reader.remaining →
      (succeeded (store.run upload).1 = true ↔
        footerLength = Footer.size ∧ Footer.IsIntact source.content) ∧
      (succeeded (store.run upload).1 = true →
        store.run upload = (.ok source.length, store.insert target source.content)) ∧
      (succeeded (store.run upload).1 = false →
        ∃ reason, (store.run upload).1 = .error (.corruptSource source.name reason))) ∧
    (succeeded (store.run upload).1 = false → (store.run upload).2 = store) := by
  intro upload
  refine ⟨intoStore_of_le chunkSize target, ?short, ?whole, ?refused⟩
  case short =>
    intro longer short
    exact congrArg Prod.fst (run_intoStore_of_lt store chunkSize target longer short)
  case whole =>
    intro longer there
    rw [← isRecord_iff_isIntact longer there]
    rcases run_intoStore_of_le store chunkSize target longer there with
      ⟨isRecord, stored⟩ | ⟨notRecord, reason, refused⟩
    · rw [stored]
      refine ⟨iff_of_true rfl isRecord, fun _ => rfl, ?_⟩
      intro failed
      cases failed
    · rw [refused]
      refine ⟨iff_of_false Bool.false_ne_true notRecord, ?_, fun _ => ⟨reason, rfl⟩⟩
      intro success
      cases success
  case refused =>
    intro failed
    rcases Nat.lt_or_ge footerLength source.length with longer | notLonger
    · rcases Nat.lt_or_ge source.reader.remaining source.length with short | there
      · exact congrArg Prod.snd (run_intoStore_of_lt store chunkSize target longer short)
      · rcases run_intoStore_of_le store chunkSize target longer there with
          ⟨-, stored⟩ | ⟨-, reason, refused⟩
        · rw [stored] at failed
          cases failed
        · exact congrArg Prod.snd refused
    · exact congrArg (fun dialogue => (store.run dialogue).2)
        (intoStore_of_le chunkSize target notLonger)

/-! A stream that goes on behind its file and hands out two bytes at once: the file is stored in chunks
of one byte; with one byte less it is corrupt, and a file that should go on behind the stream is not
read to its end. -/

private def parchment (length : Nat) : IndexInput where
  name := "f"
  length := length
  reader := (Reader.ofBytes (Footer.sealed "ink".toUTF8 ++ "blot".toUTF8)).withPace 2

private def shelve (length : Nat) : StoreDialogue (Except RepoError Nat) :=
  (intoStore 0 (parchment length) 16 ⟨"a/f"⟩).run

theorem intoStore_takes_intact_parchment :
    Store.empty.run (shelve 19) = (.ok 19, Store.empty.insert ⟨"a/f"⟩ (parchment 19).content) ∧
      (∃ reason, (Store.empty.run (shelve 18)).1 = .error (.corruptSource "f" reason)) ∧
      (Store.empty.run (shelve 24)).1 = .error (.transfer "a/f" (.io .earlyEnd)) := by
  have isContent : (parchment 19).content = Footer.sealed "ink".toUTF8 :=
    ByteArray.extract_append_eq_left (by decide +kernel)
  have isIntact : Footer.IsIntact (parchment 19).content := ⟨"ink".toUTF8, by decide, isContent⟩
  have there (length : Nat) (short : length ≤ 23) :
      (parchment length).length ≤ (parchment length).reader.remaining := short
  rcases intoStore_takes_intact 0 16 (parchment 19) ⟨"a/f"⟩ .empty with ⟨-, -, whole, -⟩
  rcases whole (by decide) (there 19 (by decide)) with ⟨taken, stored, -⟩
  rcases intoStore_takes_intact 0 16 (parchment 18) ⟨"a/f"⟩ .empty with ⟨-, -, damaged, -⟩
  rcases damaged (by decide) (there 18 (by decide)) with ⟨-, -, refused⟩
  rcases intoStore_takes_intact 0 16 (parchment 24) ⟨"a/f"⟩ .empty with ⟨-, longer, -, -⟩
  refine ⟨stored (taken.mpr ⟨rfl, isIntact⟩), refused (by decide +kernel),
    longer (by decide) (by decide +kernel)⟩

end Transfer

end Depot
