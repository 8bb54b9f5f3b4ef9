import Depot.Proofs.Exchanges

/-!
How uploads in parts go: the commands that they consist of, what is read from the replies, and what
each step of an upload exchanges with the store.
-/

namespace Depot.S3

open Dialogue

/-! ## Commands -/

namespace Client

def startCommand (key : String) : Command := { plain .post key with query := [("uploads", "")] }

def partCommand (key uploadId : String) (number : Nat) (part : ByteArray) : Command :=
  { plain .put key with
    query := [("partNumber", toString number), ("uploadId", uploadId)]
    body := part }

def completionCommand (key : String) (sent : SentParts) : Command :=
  { plain .post key with
    query := [("uploadId", sent.uploadId)]
    headers := [("content-type", "application/xml")]
    body := (Document.completion sent.parts).toUTF8 }

def abortCommand (key uploadId : String) : Command :=
  { plain .delete key with query := [("uploadId", uploadId)] }

/-- The command that stores an object in one piece. -/
def wholeCommand (key : String) (content : ByteArray) : Command :=
  { plain .put key with body := content }

end Client

/-! ## Replies -/

/-- The response in a reply, if it is a success. -/
def success? (reply : Except RepoError Http.Response) : Option Http.Response :=
  reply.toOption.filter Http.Response.isSuccess

/-- The number of a new upload, if a reply gives it. -/
def uploadId? (reply : Except RepoError Http.Response) : Option String :=
  (success? reply).bind fun response =>
    (Markup.first? response.text "UploadId").map Markup.unescape

/-- The tag of a part, if a reply gives it. -/
def tag? (reply : Except RepoError Http.Response) : Option String :=
  (success? reply).bind fun response => response.header? "etag"

/-- Whether a reply says that an upload is complete. -/
def IsComplete (reply : Except RepoError Http.Response) : Prop :=
  ∃ response, success? reply = some response ∧ Markup.first? response.text "Code" = none

section Replies

variable {operation subject : String} {reply : Except RepoError Http.Response}

theorem success?_of_check {response : Http.Response}
    (checked : .ok response = (reply >>= check operation subject)) :
    success? reply = some response := by
  rcases succeeds_of_check checked.symm with ⟨rfl, success⟩
  simp [success?, Except.toOption, success]

theorem success?_of_failed_check {error : RepoError}
    (checked : .error error = (reply >>= check operation subject)) : success? reply = none := by
  cases reply with
  | error _ => rfl
  | ok response =>
      cases success : response.isSuccess with
      | false => simp [success?, Except.toOption, success]
      | true =>
          have passed : (.error error : Except RepoError Http.Response) = .ok response :=
            checked.trans (check_of_succeeds success)
          cases passed

theorem not_succeeds_of_success? (failed : success? reply = none) : ¬Succeeds reply := by
  rintro ⟨response, rfl, success⟩
  simp [success?, Except.toOption, success] at failed

theorem succeeds_of_success? {response : Http.Response} (found : success? reply = some response) :
    Succeeds reply := by
  cases reply with
  | error _ => cases found
  | ok given =>
      rcases Option.filter_eq_some_iff.mp found with ⟨same, success⟩
      cases same
      exact ⟨response, rfl, success⟩

end Replies

namespace Client

variable {client : Client} {exchanges : Exchanges} {key uploadId : String}

/-- A task that sends a command goes on only from a response that is a success. -/
theorem goes_sendBind {Result : Type} {operation subject : String} {command : Command}
    {next : Http.Response → Task Result} {result : Except RepoError Result}
    (goes : (client.send operation subject command >>= next).run.Goes exchanges result) :
    ∃ reply late, exchanges = ⟨⟨client, command⟩, reply⟩ :: late ∧
      ((success? reply = none ∧ late = [] ∧ ∃ error, result = .error error) ∨
        ∃ response, success? reply = some response ∧ (next response).run.Goes late result) := by
  rcases Goes.bind_iff.mp goes with ⟨error, sending, rfl⟩ | ⟨response, _, late, rfl, sending, rest⟩
  · rcases goes_send_iff.mp sending with ⟨reply, rfl, checked⟩
    exact ⟨reply, [], rfl, .inl ⟨success?_of_failed_check checked, rfl, error, rfl⟩⟩
  · rcases goes_send_iff.mp sending with ⟨reply, rfl, checked⟩
    exact ⟨reply, late, rfl, .inr ⟨response, success?_of_check checked, rest⟩⟩

theorem goes_startParts {result : Except RepoError String}
    (goes : (client.startParts key).run.Goes exchanges result) :
    ∃ reply, exchanges = [⟨⟨client, startCommand key⟩, reply⟩] ∧
      uploadId? reply = result.toOption := by
  rw [startParts] at goes
  rcases goes_sendBind goes with
    ⟨reply, _, rfl, ⟨failed, rfl, error, rfl⟩ | ⟨response, success, rest⟩⟩
  · exact ⟨reply, rfl, by rw [uploadId?, failed]; rfl⟩
  refine ⟨reply, ?_⟩
  rw [uploadId?, success, Option.bind_some]
  split at rest
  next found =>
    rcases Goes.pure_iff.mp rest with ⟨rfl, rfl⟩
    exact ⟨rfl, by rw [found]; rfl⟩
  next found =>
    rcases Goes.throw_iff.mp rest with ⟨rfl, rfl⟩
    exact ⟨rfl, by rw [found]; rfl⟩

theorem goes_sendPart {number : Nat} {part : ByteArray} {result : Except RepoError String}
    (goes : (client.sendPart key uploadId number part).run.Goes exchanges result) :
    ∃ reply, exchanges = [⟨⟨client, partCommand key uploadId number part⟩, reply⟩] ∧
      tag? reply = result.toOption := by
  rw [sendPart] at goes
  rcases goes_sendBind goes with
    ⟨reply, _, rfl, ⟨failed, rfl, error, rfl⟩ | ⟨response, success, rest⟩⟩
  · exact ⟨reply, rfl, by rw [tag?, failed]; rfl⟩
  refine ⟨reply, ?_⟩
  rw [tag?, success, Option.bind_some]
  split at rest
  next found =>
    rcases Goes.pure_iff.mp rest with ⟨rfl, rfl⟩
    exact ⟨rfl, by rw [found]; rfl⟩
  next found =>
    rcases Goes.throw_iff.mp rest with ⟨rfl, rfl⟩
    exact ⟨rfl, by rw [found]; rfl⟩

theorem goes_complete {sent : SentParts} {result : Except RepoError Unit}
    (goes : (client.complete key sent).run.Goes exchanges result) :
    ∃ reply, exchanges = [⟨⟨client, completionCommand key sent⟩, reply⟩] ∧
      (result = .ok () ↔ IsComplete reply) := by
  rw [complete] at goes
  rcases goes_sendBind goes with
    ⟨reply, _, rfl, ⟨failed, rfl, error, rfl⟩ | ⟨response, success, rest⟩⟩
  · refine ⟨reply, rfl, (nomatch ·), ?_⟩
    rintro ⟨response, success, -⟩
    cases failed.symm.trans success
  refine ⟨reply, ?_⟩
  have isComplete_iff : IsComplete reply ↔ Markup.first? response.text "Code" = none := by
    simp [IsComplete, success]
  rw [isComplete_iff]
  split at rest
  next found =>
    rcases Goes.throw_iff.mp rest with ⟨rfl, rfl⟩
    exact ⟨rfl, (nomatch ·), fun none => nomatch found.symm.trans none⟩
  next found =>
    rcases Goes.pure_iff.mp rest with ⟨rfl, rfl⟩
    exact ⟨rfl, fun _ => Option.eq_none_iff_forall_ne_some.mpr found, fun _ => rfl⟩

/-! ## Steps -/

/-- What an upload goes on in once its first part is due: the exchange that begins it, unless it has
begun, and what was sent. -/
inductive Opens (client : Client) (upload : Upload) : Exchanges → SentParts → Prop
  | begun {sent : SentParts} (isSent : upload.sent = some sent) : Opens client upload [] sent
  | begins {uploadId : String} {reply : Except RepoError Http.Response}
      (notSent : upload.sent = none) (given : uploadId? reply = some uploadId) :
      Opens client upload [⟨⟨client, startCommand upload.key.text⟩, reply⟩] ⟨uploadId, []⟩

/-- How a part can be sent: the upload cannot be begun, or the part is its next one, which the store
has if it gives a tag to it. -/
inductive Flushes (client : Client) (upload : Upload) (part : ByteArray) :
    Exchanges → Except RepoError Unit → Upload → Prop
  | refused {reply : Except RepoError Http.Response} {error : RepoError}
      (notSent : upload.sent = none) (given : uploadId? reply = none) :
      Flushes client upload part [⟨⟨client, startCommand upload.key.text⟩, reply⟩] (.error error)
        upload
  | lost {opening : Exchanges} {sent : SentParts} {reply : Except RepoError Http.Response}
      {error : RepoError} (opens : Opens client upload opening sent) (given : tag? reply = none) :
      Flushes client upload part
        (opening ++ [⟨⟨client,
          partCommand upload.key.text sent.uploadId (sent.parts.length + 1) part⟩, reply⟩])
        (.error error) { upload with sent := some sent }
  | arrived {opening : Exchanges} {sent : SentParts} {reply : Except RepoError Http.Response}
      {tag : String} (opens : Opens client upload opening sent) (given : tag? reply = some tag) :
      Flushes client upload part
        (opening ++ [⟨⟨client,
          partCommand upload.key.text sent.uploadId (sent.parts.length + 1) part⟩, reply⟩])
        (.ok ())
        { upload with
          sent := some { sent with parts := sent.parts ++ [(sent.parts.length + 1, tag)] } }

theorem flushes_of_opens {upload after : Upload} {part : ByteArray} {sent : SentParts}
    {opening sending : Exchanges} {result : Except RepoError Unit}
    (opens : Opens client upload opening sent)
    (goes : ((client.sendPart upload.key.text sent.uploadId (sent.parts.length + 1) part).run.andThen
      fun
        | .error error => .done (.error error, { upload with sent := some sent })
        | .ok tag => .done (.ok (), { upload with
            sent := some { sent with parts := sent.parts ++ [(sent.parts.length + 1, tag)] } })).Goes
      sending (result, after)) :
    Flushes client upload part (opening ++ sending) result after := by
  rcases Goes.andThen_iff.mp goes with ⟨given, _, nothing, rfl, asking, ended⟩
  rcases goes_sendPart asking with ⟨reply, rfl, isGiven⟩
  cases given with
  | error error =>
      rcases Goes.done_iff.mp ended with ⟨same, rfl⟩
      cases same
      exact .lost opens isGiven
  | ok tag =>
      rcases Goes.done_iff.mp ended with ⟨same, rfl⟩
      cases same
      exact .arrived opens isGiven

theorem goes_flushPart {upload after : Upload} {part : ByteArray} {result : Except RepoError Unit}
    (goes : (client.flushPart upload part).Goes exchanges (result, after)) :
    Flushes client upload part exchanges result after := by
  rw [flushPart] at goes
  split at goes
  next sent isSent => exact flushes_of_opens (.begun isSent) goes
  next notSent =>
    rcases Goes.andThen_iff.mp goes with ⟨given, opening, sending, rfl, starting, rest⟩
    rcases goes_startParts starting with ⟨reply, rfl, isGiven⟩
    cases given with
    | error error =>
        rcases Goes.done_iff.mp rest with ⟨same, rfl⟩
        cases same
        exact .refused notSent isGiven
    | ok uploadId => exact flushes_of_opens (.begins notSent isGiven) rest

/-- How full parts are sent, one after another, until less than a part is left or one of them fails.
A part leaves the pending bytes before it is sent. -/
inductive FlushesAll (client : Client) : Upload → Exchanges → Except RepoError Unit → Upload → Prop
  | done {upload : Upload} (short : upload.pending.size < partSize) :
      FlushesAll client upload [] (.ok ()) upload
  | stop {upload after : Upload} {exchanges : Exchanges} {error : RepoError}
      (full : partSize ≤ upload.pending.size)
      (flushes : Flushes client
        { upload with pending := upload.pending.extract partSize upload.pending.size }
        (upload.pending.extract 0 partSize) exchanges (.error error) after) :
      FlushesAll client upload exchanges (.error error) after
  | next {upload middle after : Upload} {early late : Exchanges} {result : Except RepoError Unit}
      (full : partSize ≤ upload.pending.size)
      (flushes : Flushes client
        { upload with pending := upload.pending.extract partSize upload.pending.size }
        (upload.pending.extract 0 partSize) early (.ok ()) middle)
      (rest : FlushesAll client middle late result after) :
      FlushesAll client upload (early ++ late) result after

theorem Flushes.samePending {upload after : Upload} {part : ByteArray}
    {result : Except RepoError Unit} (flushes : Flushes client upload part exchanges result after) :
    after.pending = upload.pending := by
  cases flushes <;> rfl

theorem Flushes.sameKey {upload after : Upload} {part : ByteArray}
    {result : Except RepoError Unit} (flushes : Flushes client upload part exchanges result after) :
    after.key = upload.key := by
  cases flushes <;> rfl

theorem goes_flushParts {upload after : Upload} {left : Nat} {result : Except RepoError Unit}
    (full : left = upload.pending.size / partSize)
    (goes : (client.flushParts upload left).Goes exchanges (result, after)) :
    FlushesAll client upload exchanges result after := by
  have positive : 0 < partSize := by decide
  induction left generalizing upload exchanges with
  | zero =>
      rcases Goes.done_iff.mp goes with ⟨same, rfl⟩
      cases same
      exact .done (Nat.lt_of_div_eq_zero positive full.symm)
  | succ left induction =>
      have enough : partSize ≤ upload.pending.size :=
        (Nat.div_pos_iff.mp (full ▸ Nat.succ_pos left)).2
      rw [flushParts] at goes
      rcases Goes.andThen_iff.mp goes with ⟨⟨flushed, middle⟩, early, late, rfl, flushing, rest⟩
      have flushes := goes_flushPart flushing
      cases flushed with
      | error error =>
          rcases Goes.done_iff.mp rest with ⟨same, rfl⟩
          cases same
          rw [List.append_nil]
          exact .stop enough flushes
      | ok =>
          refine .next enough flushes (induction ?_ rest)
          rw [Nat.div_eq_sub_div positive enough] at full
          rw [flushes.samePending, ByteArray.size_extract, Nat.min_self]
          exact Nat.succ.inj full

theorem goes_write {upload after : Upload} {chunk : ByteArray} {result : Except RepoError Unit}
    (goes : (client.write upload chunk).Goes exchanges (result, after)) :
    FlushesAll client { upload with pending := upload.pending ++ chunk } exchanges result after :=
  goes_flushParts rfl goes

/-- How an upload can be finished: in one piece if no part was sent; else what is pending is sent as
the last part, and the upload is completed. -/
inductive Finishes (client : Client) (upload : Upload) : Exchanges → Except RepoError Unit → Prop
  | whole {reply : Except RepoError Http.Response} {result : Except RepoError Unit}
      (notSent : upload.sent = none) (succeeds : result = .ok () ↔ Succeeds reply) :
      Finishes client upload [⟨⟨client, wholeCommand upload.key.text upload.pending⟩, reply⟩] result
  | completed {sent : SentParts} {reply : Except RepoError Http.Response}
      {result : Except RepoError Unit} (isSent : upload.sent = some sent)
      (nothing : upload.pending = .empty) (completes : result = .ok () ↔ IsComplete reply) :
      Finishes client upload [⟨⟨client, completionCommand upload.key.text sent⟩, reply⟩] result
  | lost {sent : SentParts} {answer : Except RepoError Http.Response} {error : RepoError}
      (isSent : upload.sent = some sent) (given : tag? answer = none) :
      Finishes client upload
        [⟨⟨client, partCommand upload.key.text sent.uploadId (sent.parts.length + 1)
            upload.pending⟩, answer⟩]
        (.error error)
  | arrived {sent : SentParts} {answer reply : Except RepoError Http.Response} {tag : String}
      {result : Except RepoError Unit} (isSent : upload.sent = some sent)
      (something : upload.pending.size ≠ 0) (given : tag? answer = some tag)
      (completes : result = .ok () ↔ IsComplete reply) :
      Finishes client upload
        [⟨⟨client, partCommand upload.key.text sent.uploadId (sent.parts.length + 1)
            upload.pending⟩, answer⟩,
          ⟨⟨client, completionCommand upload.key.text
            { sent with parts := sent.parts ++ [(sent.parts.length + 1, tag)] }⟩, reply⟩]
        result

theorem goes_finish {upload : Upload} {result : Except RepoError Unit}
    (goes : (client.finish upload).run.Goes exchanges result) :
    Finishes client upload exchanges result := by
  rw [finish] at goes
  split at goes
  next notSent =>
    rcases goes_sendBind goes with
      ⟨reply, _, rfl, ⟨failed, rfl, error, rfl⟩ | ⟨response, success, ended⟩⟩
    · exact .whole notSent
        ⟨(nomatch ·), fun succeeds => absurd succeeds (not_succeeds_of_success? failed)⟩
    · rcases Goes.pure_iff.mp ended with ⟨rfl, rfl⟩
      exact .whole notSent ⟨fun _ => succeeds_of_success? success, fun _ => rfl⟩
  next sent isSent =>
    split at goes
    next nothing =>
      rcases goes_complete goes with ⟨reply, rfl, completes⟩
      exact .completed isSent (ByteArray.size_eq_zero_iff.mp nothing) completes
    next something =>
      rcases Goes.bind_iff.mp goes with
        ⟨_, lifted, -⟩ | ⟨⟨flushed, after⟩, _, _, rfl, lifted, rest⟩
      · rcases Goes.lift_iff.mp lifted with ⟨_, impossible, -⟩
        cases impossible
      rcases Goes.lift_iff.mp lifted with ⟨_, same, flushing⟩
      cases same
      cases goes_flushPart flushing with
      | refused notSent => cases isSent.symm.trans notSent
      | lost opens given =>
          rcases Goes.throw_iff.mp rest with ⟨rfl, rfl⟩
          cases opens with
          | begins notSent => cases isSent.symm.trans notSent
          | begun isSame =>
              cases isSent.symm.trans isSame
              exact .lost isSent given
      | arrived opens given =>
          rcases goes_complete rest with ⟨reply, rfl, completes⟩
          cases opens with
          | begins notSent => cases isSent.symm.trans notSent
          | begun isSame =>
              cases isSent.symm.trans isSame
              exact .arrived isSent something given completes

end Client

end Depot.S3
