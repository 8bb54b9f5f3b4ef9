import Depot.Proofs.Parts
import Depot.Proofs.Upload

/-!
What becomes of an upload in parts that a copy begins. The store keeps what was sent until the
upload is completed or aborted. A copy that fails while it writes aborts the upload; one that fails
while it finishes leaves it behind.
-/

namespace Depot.S3

open Dialogue

namespace Client

variable {client : Client} {key : ObjectKey} {history exchanges : Exchanges}
  {upload after : Upload} {result : Except RepoError Unit}

/-- Whether an exchange begins an upload under a number. -/
def Begins (client : Client) (key : ObjectKey) (uploadId : String)
    (asked : (asked : Exchange) × asked.Reply) : Prop :=
  asked.1 = ⟨client, startCommand key.text⟩ ∧ uploadId? asked.2 = some uploadId

/-- An upload that is being written: whatever was begun is what it goes on with, and nothing was
aborted. -/
structure Underway (client : Client) (key : ObjectKey) (history : Exchanges) (upload : Upload) :
    Prop where
  sameKey : upload.key = key
  goesOn : ∀ uploadId, (∃ asked ∈ history, client.Begins key uploadId asked) →
    upload.sent.map SentParts.uploadId = some uploadId
  noAbort : ∀ asked ∈ history, asked.1.command.method ≠ .delete

/-- Only the command that starts an upload can begin it. -/
theorem not_begins_of_ne {uploadId : String} {command : Command}
    {reply : Except RepoError Http.Response} (other : command ≠ startCommand key.text) :
    ¬client.Begins key uploadId ⟨⟨client, command⟩, reply⟩ :=
  fun begins => other (congrArg Exchange.command begins.1)

theorem partCommand_ne {uploadId : String} {number : Nat} {part : ByteArray} :
    partCommand key.text uploadId number part ≠ startCommand key.text := by
  simp [partCommand, startCommand, plain]

theorem underway_begin (client : Client) (key : ObjectKey) :
    Underway client key [] (Upload.begin key) := by
  refine ⟨rfl, ?_, by simp⟩
  rintro uploadId ⟨asked, member, -⟩
  cases member

theorem Opens.methods {opening : Exchanges} {sent : SentParts}
    (opens : Opens client upload opening sent) :
    ∀ asked ∈ opening, asked.1.command.method ≠ .delete := by
  cases opens with
  | begun isSent => simp
  | begins notSent given => simp [startCommand, plain]

/-- What an upload goes on with has the number that was given to it. -/
theorem Opens.uploadId_eq {opening : Exchanges} {sent : SentParts} {uploadId : String}
    (opens : Opens client upload opening sent)
    (given : upload.sent.map SentParts.uploadId = some uploadId ∨
      ∃ asked ∈ opening, client.Begins upload.key uploadId asked) :
    sent.uploadId = uploadId := by
  cases opens with
  | begun isSent =>
      rcases given with same | ⟨_, member, -⟩
      · rw [isSent] at same
        exact Option.some.inj same
      · cases member
  | begins notSent isGiven =>
      rcases given with same | ⟨_, member, -, same⟩
      · rw [notSent] at same
        cases same
      · rw [List.mem_singleton.mp member, isGiven] at same
        exact Option.some.inj same

theorem Flushes.noAbort {part : ByteArray}
    (flushes : Flushes client upload part exchanges result after) :
    ∀ asked ∈ exchanges, asked.1.command.method ≠ .delete := by
  cases flushes with
  | refused notSent given => simp [startCommand, plain]
  | lost opens given =>
      rw [List.forall_mem_append]
      exact ⟨opens.methods, by simp [partCommand, plain]⟩
  | arrived opens given =>
      rw [List.forall_mem_append]
      exact ⟨opens.methods, by simp [partCommand, plain]⟩

/-- What is begun while a part is sent is what the upload goes on with, and what was begun before
goes on. -/
theorem Flushes.goesOn {part : ByteArray} {uploadId : String}
    (flushes : Flushes client upload part exchanges result after)
    (given : upload.sent.map SentParts.uploadId = some uploadId ∨
      ∃ asked ∈ exchanges, client.Begins upload.key uploadId asked) :
    after.sent.map SentParts.uploadId = some uploadId := by
  -- Only the exchange that opens an upload can begin one.
  have opened {opening : Exchanges} {sent : SentParts} {last : (asked : Exchange) × asked.Reply}
      (opens : Opens client upload opening sent) (same : exchanges = opening ++ [last])
      (isPart : ¬client.Begins upload.key uploadId last) : sent.uploadId = uploadId := by
    refine opens.uploadId_eq (given.imp_right ?_)
    rintro ⟨asked, member, begins⟩
    rw [same] at member
    rcases List.mem_append.mp member with member | member
    · exact ⟨asked, member, begins⟩
    · rw [List.mem_singleton.mp member] at begins
      exact absurd begins isPart
  cases flushes with
  | refused notSent isGiven =>
      rcases given with same | ⟨_, member, -, same⟩
      · exact same
      · rw [List.mem_singleton.mp member, isGiven] at same
        cases same
  | lost opens isGiven => exact congrArg some (opened opens rfl (not_begins_of_ne partCommand_ne))
  | arrived opens isGiven =>
      have same := opened opens rfl (not_begins_of_ne partCommand_ne)
      exact congrArg some same

theorem Underway.flush (underway : Underway client key history upload) {pending part : ByteArray}
    (flushes : Flushes client { upload with pending := pending } part exchanges result after) :
    Underway client key (history ++ exchanges) after := by
  refine ⟨flushes.sameKey.trans underway.sameKey, ?_,
    List.forall_mem_append.mpr ⟨underway.noAbort, flushes.noAbort⟩⟩
  rintro uploadId ⟨asked, member, begins⟩
  apply flushes.goesOn
  rcases List.mem_append.mp member with member | member
  · exact .inl (underway.goesOn uploadId ⟨asked, member, begins⟩)
  · rw [← underway.sameKey] at begins
    exact .inr ⟨asked, member, begins⟩

theorem Underway.flushAll (underway : Underway client key history upload)
    (flushes : FlushesAll client upload exchanges result after) :
    Underway client key (history ++ exchanges) after := by
  induction flushes generalizing history with
  | done short =>
      rw [List.append_nil]
      exact underway
  | stop full flushes => exact underway.flush flushes
  | next full flushes rest induction =>
      rw [← List.append_assoc]
      exact induction (underway.flush flushes)

theorem Underway.write {chunk : ByteArray} (underway : Underway client key history upload)
    (goes : (client.write upload chunk).Goes exchanges (result, after)) :
    Underway client key (history ++ exchanges) after := by
  have filled : Underway client key history { upload with pending := upload.pending ++ chunk } :=
    ⟨underway.sameKey, underway.goesOn, underway.noAbort⟩
  exact filled.flushAll (goes_write goes)

theorem Finishes.noAbort (finishes : Finishes client upload exchanges result) :
    ∀ asked ∈ exchanges, asked.1.command.method ≠ .delete := by
  cases finishes <;> simp [wholeCommand, completionCommand, partCommand, plain]

theorem Finishes.not_begins {uploadId : String}
    (finishes : Finishes client upload exchanges result) :
    ∀ asked ∈ exchanges, ¬client.Begins upload.key uploadId asked := by
  have whole : wholeCommand upload.key.text upload.pending ≠ startCommand upload.key.text := by
    simp [wholeCommand, startCommand, plain]
  have completion (sent : SentParts) :
      completionCommand upload.key.text sent ≠ startCommand upload.key.text := by
    simp [completionCommand, startCommand, plain]
  cases finishes with
  | whole => exact List.forall_mem_singleton.mpr (not_begins_of_ne whole)
  | completed => exact List.forall_mem_singleton.mpr (not_begins_of_ne (completion _))
  | lost => exact List.forall_mem_singleton.mpr (not_begins_of_ne partCommand_ne)
  | arrived => exact List.forall_mem_cons.mpr ⟨not_begins_of_ne partCommand_ne,
      List.forall_mem_singleton.mpr (not_begins_of_ne (completion _))⟩

/-- An upload that can be finished is completed if it was begun. -/
theorem Finishes.settles {uploadId : String} (finishes : Finishes client upload exchanges (.ok ()))
    (begun : upload.sent.map SentParts.uploadId = some uploadId) :
    ∃ before parts reply, IsComplete reply ∧ exchanges = before ++
      [⟨⟨client, completionCommand upload.key.text ⟨uploadId, parts⟩⟩, reply⟩] := by
  cases finishes with
  | whole notSent =>
      rw [notSent] at begun
      cases begun
  | completed isSent nothing completes =>
      rw [isSent] at begun
      cases begun
      exact ⟨[], _, _, completes.mp rfl, rfl⟩
  | arrived isSent something given completes =>
      rw [isSent] at begun
      cases begun
      exact ⟨[_], _, _, completes.mp rfl, rfl⟩

/-- An upload that is aborted is not begun by that, and its parts are dropped if it was begun
before. -/
theorem abort_settles {uploadId : String} {value : Unit}
    (goes : (client.abort upload).Goes exchanges value) :
    (∀ asked ∈ exchanges, ¬client.Begins upload.key uploadId asked) ∧
      (upload.sent.map SentParts.uploadId = some uploadId → ∃ reply,
        exchanges = [⟨⟨client, abortCommand upload.key.text uploadId⟩, reply⟩]) := by
  rw [abort] at goes
  cases isSent : upload.sent with
  | none =>
      rw [isSent] at goes
      rcases Goes.done_iff.mp goes with ⟨-, rfl⟩
      exact ⟨by simp, fun given => by cases given⟩
  | some sent =>
      rw [isSent] at goes
      rcases Goes.andThen_iff.mp goes with ⟨_, _, _, rfl, sending, ended⟩
      rcases goes_send_iff.mp sending with ⟨reply, rfl, -⟩
      rcases Goes.done_iff.mp ended with ⟨-, rfl⟩
      rw [List.append_nil]
      constructor
      · have other : abortCommand upload.key.text sent.uploadId ≠ startCommand upload.key.text := by
          simp [abortCommand, startCommand, plain]
        exact List.forall_mem_singleton.mpr (not_begins_of_ne other)
      · intro given
        cases given
        exact ⟨reply, rfl⟩

end Client

end Depot.S3

namespace Depot.Transfer

open S3 S3.Client Dialogue

variable {client : S3.Client} {key : ObjectKey} {history exchanges : Exchanges} {chunkSize : Nat}
  {upload last : Upload}

theorem underway_writeBody {remaining : Nat} {reader : Reader} {register : UInt32}
    {result : Except RepoError (Reader × UInt32)}
    (underway : Underway client key history upload)
    (relays : client.Relays (writeBody chunkSize reader register upload remaining) exchanges
      (result, last)) : Underway client key (history ++ exchanges) last := by
  induction remaining using Nat.strongRecOn
    generalizing reader register upload history exchanges with
  | ind remaining induction =>
      rw [writeBody] at relays
      split at relays
      · rcases Relays.done_iff.mp relays with ⟨same, rfl⟩
        cases same
        rw [List.append_nil]
        exact underway
      next something =>
        simp only at relays
        split at relays
        · rcases Relays.done_iff.mp relays with ⟨same, rfl⟩
          cases same
          rw [List.append_nil]
          exact underway
        · rcases Relays.ask_iff.mp relays with ⟨⟨written, middle⟩, early, late, rfl, writing, rest⟩
          have now := underway.write writing
          rw [← List.append_assoc]
          cases written with
          | error error =>
              rcases Relays.done_iff.mp rest with ⟨same, rfl⟩
              cases same
              rw [List.append_nil]
              exact now
          | ok => exact induction _ (by omega) now rest

theorem underway_writeFile {source : IndexInput} {footerLength : Nat}
    {result : Except RepoError Nat} (underway : Underway client key history upload)
    (relays : client.Relays (writeFile chunkSize source footerLength upload) exchanges
      (result, last)) : Underway client key (history ++ exchanges) last := by
  rcases Relays.andThen_iff.mp relays with ⟨⟨body, middle⟩, early, late, rfl, writing, rest⟩
  have now := underway_writeBody underway writing
  rw [← List.append_assoc]
  have ended {late : Exchanges} {value : Except RepoError Nat}
      (relays : client.Relays (.done (value, middle)) late (result, last)) :
      Underway client key (history ++ early ++ late) last := by
    rcases Relays.done_iff.mp relays with ⟨same, rfl⟩
    cases same
    rw [List.append_nil]
    exact now
  cases body with
  | error error => exact ended rest
  | ok found =>
      simp only at rest
      split at rest
      · exact ended rest
      split at rest
      · exact ended rest
      rcases Relays.andThen_iff.mp rest with ⟨⟨written, final⟩, _, _, rfl, asking, ending⟩
      rcases Relays.done_iff.mp ending with ⟨same, rfl⟩
      cases same
      rw [List.append_nil]
      exact now.write (Relays.question_iff.mp asking)

/-- How a copy can end after the file was written, or was not. -/
inductive Concludes (client : S3.Client) (target : ObjectKey) (upload : Upload) :
    Except RepoError Nat → Exchanges → Except RepoError Nat → Prop
  | failed {late : Exchanges} {error : RepoError} (aborting : (client.abort upload).Goes late ()) :
      Concludes client target upload (.error error) late (.error (error.inTransfer target.text))
  | unfinished {late : Exchanges} {size : Nat} {error : RepoError}
      (finishing : (client.finish upload).run.Goes late (.error error)) :
      Concludes client target upload (.ok size) late (.error (error.inTransfer target.text))
  | finished {late : Exchanges} {size : Nat}
      (finishing : (client.finish upload).run.Goes late (.ok ())) :
      Concludes client target upload (.ok size) late (.ok size)

theorem relays_intoStore_iff {source : IndexInput} {footerLength : Nat} {target : ObjectKey}
    {result : Except RepoError Nat} (longer : footerLength < source.length) :
    client.Relays (intoStore chunkSize source footerLength target).run exchanges result ↔
      ∃ written upload early late, exchanges = early ++ late ∧
        client.Relays (writeFile chunkSize source footerLength (Upload.begin target)) early
          (written, upload) ∧
        Concludes client target upload written late result := by
  simp only [intoStore, ExceptT.run_mk, if_neg (Nat.not_le_of_lt longer)]
  constructor
  · intro relays
    rcases Relays.andThen_iff.mp relays with ⟨opened, _, rest, rfl, opening, goesOn⟩
    rcases Goes.done_iff.mp (Relays.question_iff.mp opening) with ⟨rfl, rfl⟩
    rcases Relays.andThen_iff.mp goesOn with ⟨⟨written, upload⟩, early, late, rfl, writing, ending⟩
    refine ⟨written, upload, early, late, rfl, writing, ?_⟩
    cases written with
    | error error =>
        rcases Relays.andThen_iff.mp ending with ⟨_, aborting, _, rfl, asking, ended⟩
        rcases Relays.done_iff.mp ended with ⟨rfl, rfl⟩
        rw [List.append_nil]
        exact .failed (Relays.question_iff.mp asking)
    | ok size =>
        rcases Relays.andThen_iff.mp ending with ⟨finished, finishing, _, rfl, asking, ended⟩
        have answering := Relays.question_iff.mp asking
        cases finished with
        | error error =>
            rcases Relays.done_iff.mp ended with ⟨rfl, rfl⟩
            rw [List.append_nil]
            exact .unfinished answering
        | ok =>
            rcases Relays.done_iff.mp ended with ⟨rfl, rfl⟩
            rw [List.append_nil]
            exact .finished answering
  · intro given
    rcases given with ⟨written, upload, early, late, rfl, writing, concludes⟩
    refine Relays.andThen_iff.mpr ⟨_, [], _, rfl,
      Relays.question_iff.mpr (Goes.done_iff.mpr ⟨rfl, rfl⟩), ?_⟩
    refine Relays.andThen_iff.mpr ⟨_, early, late, rfl, writing, ?_⟩
    have ended {result : Except RepoError Nat} : client.Relays (.done result) [] result :=
      Relays.done_iff.mpr ⟨rfl, rfl⟩
    cases concludes with
    | failed aborting =>
        exact Relays.andThen_iff.mpr
          ⟨_, late, [], (List.append_nil _).symm, Relays.question_iff.mpr aborting, ended⟩
    | unfinished finishing =>
        exact Relays.andThen_iff.mpr
          ⟨_, late, [], (List.append_nil _).symm, Relays.question_iff.mpr finishing, ended⟩
    | finished finishing =>
        exact Relays.andThen_iff.mpr
          ⟨_, late, [], (List.append_nil _).symm, Relays.question_iff.mpr finishing, ended⟩

/-- Whatever a store answers, a copy that began an upload in parts settles it in the end: it
succeeds and the upload is complete, or it fails and the upload is aborted, unless what fails is to
finish the upload after the whole file was written. Nothing is aborted then. -/
theorem intoStore_settles (client : S3.Client) {source : IndexInput} {footerLength : Nat}
    {target : ObjectKey} {result : Except RepoError Nat}
    (relays : client.Relays (intoStore chunkSize source footerLength target).run exchanges result)
    {uploadId : String} (begun : ∃ asked ∈ exchanges, client.Begins target uploadId asked) :
    (∃ size before parts reply, result = .ok size ∧ IsComplete reply ∧ exchanges = before ++
        [⟨⟨client, completionCommand target.text ⟨uploadId, parts⟩⟩, reply⟩]) ∨
      (∃ error before reply, result = .error error ∧ exchanges = before ++
        [⟨⟨client, abortCommand target.text uploadId⟩, reply⟩]) ∨
      ∃ early late size upload error, exchanges = early ++ late ∧
        client.Relays (writeFile chunkSize source footerLength (Upload.begin target)) early
          (.ok size, upload) ∧
        (client.finish upload).run.Goes late (.error error) ∧
        result = .error (error.inTransfer target.text) ∧
        ∀ asked ∈ exchanges, asked.1.command.method ≠ .delete := by
  rcases (Nat.lt_or_ge footerLength source.length).symm with small | longer
  · simp only [intoStore, ExceptT.run_mk, if_pos small] at relays
    rcases Relays.done_iff.mp relays with ⟨-, rfl⟩
    rcases begun with ⟨asked, member, -⟩
    cases member
  rcases (relays_intoStore_iff longer).mp relays with
    ⟨written, upload, early, late, rfl, writing, concludes⟩
  have underway := underway_writeFile (underway_begin client target) writing
  rw [List.nil_append] at underway
  have goesOnWith (nothingLate : ∀ asked ∈ late, ¬client.Begins target uploadId asked) :
      upload.sent.map SentParts.uploadId = some uploadId := by
    rcases begun with ⟨asked, member, begins⟩
    rcases List.mem_append.mp member with member | member
    · exact underway.goesOn uploadId ⟨asked, member, begins⟩
    · exact absurd begins (nothingLate asked member)
  cases concludes with
  | failed aborting =>
      rcases abort_settles aborting with ⟨nothing, settles⟩
      rw [underway.sameKey] at nothing settles
      rcases settles (goesOnWith nothing) with ⟨reply, rfl⟩
      exact .inr (.inl ⟨_, early, reply, rfl, rfl⟩)
  | unfinished finishing =>
      exact .inr (.inr ⟨early, late, _, upload, _, rfl, writing, finishing, rfl,
        List.forall_mem_append.mpr ⟨underway.noAbort, (goes_finish finishing).noAbort⟩⟩)
  | finished finishing =>
      have finishes := goes_finish finishing
      have begunBefore : upload.sent.map SentParts.uploadId = some uploadId := by
        apply goesOnWith
        rw [← underway.sameKey]
        exact finishes.not_begins
      rcases finishes.settles begunBefore with ⟨before, parts, reply, isComplete, rfl⟩
      rw [underway.sameKey]
      exact .inl ⟨_, early ++ before, parts, reply, rfl, isComplete,
        (List.append_assoc _ _ _).symm⟩

/-! The copy of a file of one part and its record. -/

private def shipper : S3.Client := ⟨"bucket", "us-east-1", none, "AK", "SK", none⟩

private def cargo : ObjectKey := ⟨"cargo"⟩

private def hull (body : ByteArray) : Reader := Reader.ofBytes (Footer.sealed body)

private def manifest (body : ByteArray) : IndexInput := ⟨"f", partSize + Footer.size, hull body⟩

private def record (body : ByteArray) : ByteArray := (Footer.ofBody body).encode

variable {body : ByteArray}

private theorem longer : Footer.size < (manifest body).length := by
  simp [manifest, Footer.size, partSize]

private theorem bodyLength : (manifest body).length - Footer.size = partSize :=
  Nat.add_sub_cancel _ _

private theorem remaining_hull (size : body.size = partSize) :
    (hull body).remaining = partSize + Footer.size := by
  rw [hull, Reader.remaining, Reader.ofBytes, Footer.sealed, ByteArray.size_append, size,
    Footer.size_encode]
  exact Nat.sub_zero _

private theorem upcoming_hull (size : body.size = partSize) :
    (hull body).upcoming partSize = body := by
  rw [hull, Reader.upcoming, Reader.ofBytes, Nat.zero_add, Footer.sealed]
  exact ByteArray.extract_append_eq_left size.symm

private theorem upcoming_record (size : body.size = partSize) :
    ((hull body).advance partSize).upcoming Footer.size = record body := by
  rw [hull, Reader.upcoming, Reader.advance, Reader.ofBytes, Nat.zero_add, Footer.sealed, record]
  apply ByteArray.extract_append_eq_right size.symm
  rw [size, Footer.size_encode]

private def numbered : Http.Response := ⟨200, [], "<UploadId>1</UploadId>".toUTF8⟩

private def tagged : Http.Response := ⟨200, [("etag", "t")], .empty⟩

private def broken : Http.Response := ⟨500, [], .empty⟩

private def notSent : RepoError :=
  .transport "S3 UploadPart failed for 'cargo': HTTP 500 Internal Server Error - "

private def opening : Exchanges := [⟨⟨shipper, startCommand cargo.text⟩, .ok numbered⟩]

private def sending (number : Nat) (part : ByteArray) (response : Http.Response) : Exchanges :=
  [⟨⟨shipper, partCommand cargo.text "1" number part⟩, .ok response⟩]

private theorem goes_opening : (shipper.startParts cargo.text).run.Goes opening (.ok "1") := by
  have found : Markup.first? numbered.text "UploadId" = some "1" := by decide +kernel
  have plainText : Markup.unescape "1" = "1" := by decide +kernel
  rw [startParts]
  refine Goes.bind_iff.mpr (.inr ⟨numbered, opening, [], rfl,
    goes_send_iff.mpr ⟨.ok numbered, rfl, rfl⟩, ?_⟩)
  rw [found]
  exact Goes.pure_iff.mpr ⟨congrArg Except.ok plainText.symm, rfl⟩

private theorem begun_opening (middle rest : Exchanges) :
    ∃ asked ∈ opening ++ middle ++ rest, shipper.Begins cargo "1" asked := by
  have given : uploadId? (.ok numbered) = some "1" := by decide +kernel
  exact ⟨_, List.mem_append_left _ (List.mem_append_left _ (List.mem_singleton_self _)), rfl, given⟩

private theorem goes_sending_tagged (part : ByteArray) :
    (shipper.sendPart cargo.text "1" 1 part).run.Goes (sending 1 part tagged) (.ok "t") := by
  have found : tagged.header? "etag" = some "t" := by decide +kernel
  rw [sendPart]
  refine Goes.bind_iff.mpr (.inr ⟨tagged, sending 1 part tagged, [], rfl,
    goes_send_iff.mpr ⟨.ok tagged, rfl, rfl⟩, ?_⟩)
  rw [found]
  exact Goes.pure_iff.mpr ⟨rfl, rfl⟩

private theorem goes_sending_broken (number : Nat) (part : ByteArray) :
    (shipper.sendPart cargo.text "1" number part).run.Goes (sending number part broken)
      (.error notSent) := by
  rw [sendPart]
  exact Goes.bind_iff.mpr (.inl ⟨notSent, goes_send_iff.mpr ⟨.ok broken, rfl, rfl⟩, rfl⟩)

/-- The upload after its first part was sent. -/
private def sentFirst (tag : Except RepoError String) (pending : ByteArray) : Upload :=
  ⟨cargo, pending, some ⟨"1", tag.toOption.toList.map fun tag => (1, tag)⟩⟩

private theorem goes_flush_first {response : Http.Response} {tag : Except RepoError String}
    (goes : (shipper.sendPart cargo.text "1" 1 body).run.Goes (sending 1 body response) tag) :
    (shipper.flushPart ⟨cargo, .empty, none⟩ body).Goes (opening ++ sending 1 body response)
      (tag.map fun _ => (), sentFirst tag .empty) := by
  rw [flushPart]
  refine Goes.andThen_iff.mpr ⟨_, opening, _, rfl, goes_opening, ?_⟩
  refine Goes.andThen_iff.mpr ⟨_, [], _, rfl, Goes.done_iff.mpr ⟨rfl, rfl⟩, ?_⟩
  refine Goes.andThen_iff.mpr ⟨tag, _, [], (List.append_nil _).symm, goes, ?_⟩
  cases tag <;> exact Goes.done_iff.mpr ⟨rfl, rfl⟩

/-- What becomes of the body is what becomes of the first part. -/
private theorem relays_body {response : Http.Response} {tag : Except RepoError String}
    (size : body.size = partSize)
    (goes : (shipper.sendPart cargo.text "1" 1 body).run.Goes (sending 1 body response) tag) :
    shipper.Relays (writeBody partSize (hull body) Crc32.start (Upload.begin cargo)
      ((manifest body).length - Footer.size)) (opening ++ sending 1 body response)
      (tag.map fun _ => ((hull body).advance partSize, Crc32.update Crc32.start body),
        sentFirst tag .empty) := by
  have writing : (shipper.write (Upload.begin cargo) body).Goes (opening ++ sending 1 body response)
      (tag.map fun _ => (), sentFirst tag .empty) := by
    have onePart : body.size / partSize = 1 := by
      rw [size]
      exact Nat.div_self (by decide)
    have whole : body.extract 0 partSize = body := by
      rw [← size]
      exact ByteArray.extract_zero_size
    have nothing : body.extract partSize body.size = .empty := by
      rw [size]
      exact ByteArray.extract_same
    rw [write, Upload.begin, ByteArray.empty_append, onePart, flushParts]
    simp only [whole, nothing]
    refine Goes.andThen_iff.mpr ⟨_, _, [], (List.append_nil _).symm, goes_flush_first goes, ?_⟩
    cases tag <;> exact Goes.done_iff.mpr ⟨rfl, rfl⟩
  have there : partSize ≤ (hull body).remaining := by
    rw [remaining_hull size]
    exact Nat.le_add_right _ _
  have step : min partSize (max partSize 1) = partSize := by decide
  have something : partSize ≠ 0 := by decide
  rw [bodyLength, writeBody, if_neg something, step]
  simp only [Reader.readExactly_of_le there, upcoming_hull size]
  refine Relays.ask_iff.mpr ⟨_, _, [], (List.append_nil _).symm, writing, ?_⟩
  cases tag with
  | error error => exact Relays.done_iff.mpr ⟨rfl, rfl⟩
  | ok tag =>
      rw [Nat.sub_self, writeBody, if_pos rfl]
      exact Relays.done_iff.mpr ⟨rfl, rfl⟩

/-- The first part is not sent, and the upload is aborted. -/
private theorem relays_copy_lost (size : body.size = partSize) :
    shipper.Relays (intoStore partSize (manifest body) Footer.size cargo).run
      (opening ++ sending 1 body broken ++
        [⟨⟨shipper, abortCommand cargo.text "1"⟩, .ok ⟨204, [], .empty⟩⟩])
      (.error (notSent.inTransfer cargo.text)) := by
  have writing : shipper.Relays
      (writeFile partSize (manifest body) Footer.size (Upload.begin cargo))
      (opening ++ sending 1 body broken)
      (.error notSent, sentFirst (.error notSent) .empty) :=
    Relays.andThen_iff.mpr ⟨_, _, [], rfl, relays_body size (goes_sending_broken 1 body),
      Relays.done_iff.mpr ⟨rfl, rfl⟩⟩
  have aborting : (shipper.abort (sentFirst (.error notSent) .empty)).Goes
      [⟨⟨shipper, abortCommand cargo.text "1"⟩, .ok ⟨204, [], .empty⟩⟩] () :=
    Goes.andThen_iff.mpr ⟨_, _, [], rfl, goes_send_iff.mpr ⟨.ok ⟨204, [], .empty⟩, rfl, rfl⟩,
      Goes.done_iff.mpr ⟨rfl, rfl⟩⟩
  exact (relays_intoStore_iff longer).mpr ⟨_, _, _, _, rfl, writing, .failed aborting⟩

private theorem relays_writeFile {source : IndexInput} {footerLength : Nat} {reader next : Reader}
    {register : UInt32} {bytes : ByteArray} {footer : Footer} {early late : Exchanges}
    {upload middle after : Upload}
    (body : client.Relays (writeBody chunkSize source.reader Crc32.start upload
      (source.length - footerLength)) early (.ok (reader, register), middle))
    (read : reader.readExactly footerLength = .ok (bytes, next))
    (checked : checkedFooter source.name register bytes = .ok footer)
    (written : (client.write middle footer.encode).Goes late (.ok (), after)) :
    client.Relays (writeFile chunkSize source footerLength upload) (early ++ late)
      (.ok (source.length - footerLength + Footer.size), after) := by
  refine Relays.andThen_iff.mpr ⟨_, early, late, rfl, body, ?_⟩
  simp only [read, checked]
  exact Relays.andThen_iff.mpr ⟨_, late, [], (List.append_nil _).symm,
    Relays.question_iff.mpr written, Relays.done_iff.mpr ⟨rfl, rfl⟩⟩

private theorem goes_write_last {last : ByteArray} (short : last.size < partSize) :
    (shipper.write (sentFirst (.ok "t") .empty) last).Goes []
      (.ok (), sentFirst (.ok "t") last) := by
  have noPart : last.size / partSize = 0 := Nat.div_eq_of_lt short
  rw [write, sentFirst, ByteArray.empty_append, noPart]
  exact Goes.done_iff.mpr ⟨rfl, rfl⟩

private theorem goes_finish_last {last : ByteArray} (something : last.size ≠ 0) :
    (shipper.finish (sentFirst (.ok "t") last)).run.Goes (sending 2 last broken)
      (.error notSent) := by
  have flushing : (shipper.flushPart (sentFirst (.ok "t") .empty) last).Goes
      (sending 2 last broken) (.error notSent, sentFirst (.ok "t") .empty) := by
    rw [flushPart]
    refine Goes.andThen_iff.mpr ⟨_, [], _, rfl, Goes.done_iff.mpr ⟨rfl, rfl⟩, ?_⟩
    exact Goes.andThen_iff.mpr ⟨_, _, [], rfl, goes_sending_broken 2 last,
      Goes.done_iff.mpr ⟨rfl, rfl⟩⟩
  rw [sentFirst, finish]
  simp only [if_neg something]
  exact Goes.bind_iff.mpr (.inr ⟨_, sending 2 last broken, [], rfl,
    Goes.lift_iff.mpr ⟨_, rfl, flushing⟩, Goes.throw_iff.mpr ⟨rfl, rfl⟩⟩)

/-- The part with the record is not sent, and nothing more is asked. -/
private theorem relays_copy_unfinished (size : body.size = partSize) :
    shipper.Relays (intoStore partSize (manifest body) Footer.size cargo).run
      (opening ++ sending 1 body tagged ++ sending 2 (record body) broken)
      (.error (notSent.inTransfer cargo.text)) := by
  have sizeRecord : (record body).size = Footer.size := Footer.size_encode _
  have short : (record body).size < partSize := by
    rw [sizeRecord]
    decide
  have something : (record body).size ≠ 0 := by
    rw [sizeRecord]
    decide
  have readable : Footer.size ≤ ((hull body).advance partSize).remaining := by
    rw [Reader.remaining_advance, remaining_hull size, Nat.add_sub_cancel_left]
  have read := Reader.readExactly_of_le readable
  rw [upcoming_record size] at read
  have writing : shipper.Relays
      (writeFile partSize (manifest body) Footer.size (Upload.begin cargo))
      (opening ++ sending 1 body tagged)
      (.ok ((manifest body).length - Footer.size + Footer.size),
        sentFirst (.ok "t") (record body)) := by
    rw [← List.append_nil (opening ++ _)]
    exact relays_writeFile (relays_body size (goes_sending_tagged body)) read
      (checkedFooter_ofBody _ body) (goes_write_last short)
  exact (relays_intoStore_iff longer).mpr
    ⟨_, _, _, _, rfl, writing, .unfinished (goes_finish_last something)⟩

theorem intoStore_settles_lost_part :
    ∃ body exchanges, shipper.Relays (intoStore partSize (manifest body) Footer.size cargo).run
        exchanges (.error (notSent.inTransfer cargo.text)) ∧
      (∃ asked ∈ exchanges, shipper.Begins cargo "1" asked) ∧ ∃ before reply,
        exchanges = before ++ [⟨⟨shipper, abortCommand cargo.text "1"⟩, reply⟩] := by
  have size : (⟨Array.replicate partSize 0⟩ : ByteArray).size = partSize := Array.size_replicate
  have relays := relays_copy_lost size
  have begun := begun_opening (sending 1 ⟨Array.replicate partSize 0⟩ broken)
    [⟨⟨shipper, abortCommand cargo.text "1"⟩, .ok ⟨204, [], .empty⟩⟩]
  refine ⟨_, _, relays, begun, ?_⟩
  rcases intoStore_settles shipper relays begun with
    ⟨_, _, _, _, impossible, -⟩ | ⟨_, before, reply, -, same⟩ | ⟨_, _, _, _, _, -, -, -, -, noAbort⟩
  · cases impossible
  · exact ⟨before, reply, same⟩
  · exact absurd rfl (noAbort _ (List.mem_append_right _ (List.mem_singleton_self _)))

/-- A copy whose last part is not stored leaves the upload that it began, and nobody aborts it. -/
theorem intoStore_leaves_upload :
    ∃ body exchanges error, exchanges.IsPossible ∧
      shipper.Relays (intoStore partSize (manifest body) Footer.size cargo).run exchanges
        (.error error) ∧
      (∃ asked ∈ exchanges, shipper.Begins cargo "1" asked) ∧
      ∀ asked ∈ exchanges, asked.1.command.method ≠ .delete := by
  have size : (⟨Array.replicate partSize 0⟩ : ByteArray).size = partSize := Array.size_replicate
  have possible (asked : Exchange) (response : Http.Response) :
      Exchanges.IsPossible [⟨asked, .ok response⟩] := by
    refine List.forall_mem_singleton.mpr fun error same => ?_
    cases same
  refine ⟨_, _, _, ?_, relays_copy_unfinished size, ?_, ?_⟩
  · exact List.forall_mem_append.mpr
      ⟨List.forall_mem_append.mpr ⟨possible _ numbered, possible _ tagged⟩, possible _ broken⟩
  · exact begun_opening _ _
  · rw [List.forall_mem_append, List.forall_mem_append]
    simp [opening, sending, startCommand, partCommand, plain]

end Depot.Transfer
