import Depot.Proofs.Commits

/-!
How an upload is cut into parts if the store grants every command: behind every full part, wherever
the chunks of its bytes end. An object of less than a part is sent in one piece.
-/

namespace Depot.S3

open Dialogue

/-! ## Parts of bytes -/

namespace Client

/-- The parts that bytes are cut into: full ones, and what is left behind them. -/
def cut (bytes : List UInt8) : List ByteArray :=
  if bytes = [] then []
  else Bytes.ofList (bytes.take partSize) :: cut (bytes.drop partSize)
termination_by bytes.length
decreasing_by
  have positive := List.length_pos_iff.mpr ‹bytes ≠ []›
  rw [List.length_drop, partSize]
  omega

/-- Whether parts hold these bytes: as few of them as there can be, all full but the last. -/
structure Tiles (bytes : List UInt8) (parts : List ByteArray) : Prop where
  content : bytesOf parts = bytes
  count : parts.length = (bytes.length + partSize - 1) / partSize
  full : ∀ part ∈ parts.dropLast, part.size = partSize
  last : ∀ part ∈ parts.getLast?, 0 < part.size ∧ part.size ≤ partSize

theorem cut_nil : cut [] = [] := by
  rw [cut, if_pos rfl]

theorem bytesOf_concat (parts : List ByteArray) (part : ByteArray) :
    bytesOf (parts ++ [part]) = bytesOf parts ++ part.data.toList := by
  simp [bytesOf]

/-- Another full part comes before the parts of other bytes. -/
theorem cut_full_append {part : ByteArray} (full : part.size = partSize) (bytes : List UInt8) :
    cut (part.data.toList ++ bytes) = part :: cut bytes := by
  have length : part.data.toList.length = partSize := full
  have nonempty : part.data.toList ++ bytes ≠ [] := by
    rw [← List.length_pos_iff, List.length_append, length, partSize]
    omega
  rw [cut, if_neg nonempty, List.take_left' length, List.drop_left' length, Bytes.ofList_toList]

theorem cut_bytesOf_append {parts : List ByteArray} (full : ∀ part ∈ parts, part.size = partSize)
    (bytes : List UInt8) : cut (bytesOf parts ++ bytes) = parts ++ cut bytes := by
  induction parts with
  | nil => rfl
  | cons part parts induction =>
      rcases List.forall_mem_cons.mp full with ⟨first, others⟩
      rw [bytesOf, List.flatMap_cons, List.append_assoc, cut_full_append first]
      exact congrArg (part :: ·) (induction others)

/-- Less than a part, but something, is a part of its own. -/
theorem cut_short {bytes : List UInt8} (nonempty : bytes ≠ []) (short : bytes.length < partSize) :
    cut bytes = [Bytes.ofList bytes] := by
  rw [cut, if_neg nonempty, List.take_of_length_le (Nat.le_of_lt short),
    List.drop_eq_nil_of_le (Nat.le_of_lt short), cut_nil]

theorem tiles_nil : Tiles [] [] := by
  refine ⟨rfl, rfl, ?_, ?_⟩
  · simp
  · simp

/-- Bytes that are not more than a part are one. -/
theorem tiles_single {bytes : List UInt8} (nonempty : bytes ≠ [])
    (within : bytes.length ≤ partSize) :
    Tiles bytes [Bytes.ofList bytes] := by
  have length := List.length_pos_iff.mpr nonempty
  refine ⟨?_, ?_, ?_, ?_⟩
  · rw [bytesOf, List.flatMap_singleton, Bytes.toList_ofList]
  · rw [List.length_singleton]
    rw [partSize] at within ⊢
    omega
  · simp
  · simp [Bytes.size_ofList, length, within]

/-- A full part can come before others. -/
theorem Tiles.cons {bytes : List UInt8} {part : ByteArray} {parts : List ByteArray}
    (tiles : Tiles bytes parts) (full : part.size = partSize) :
    Tiles (part.data.toList ++ bytes) (part :: parts) := by
  have length : part.data.toList.length = partSize := full
  refine ⟨congrArg (part.data.toList ++ ·) tiles.content, ?_, ?_, ?_⟩
  · rw [List.length_cons, tiles.count, List.length_append, length, partSize]
    omega
  · intro other member
    cases parts with
    | nil => cases member
    | cons next parts =>
        rcases List.mem_cons.mp member with rfl | member
        · exact full
        · exact tiles.full other member
  · intro other isLast
    cases parts with
    | nil =>
        rcases Option.some.inj isLast with (rfl : part = other)
        rw [full]
        decide
    | cons next parts => exact tiles.last other isLast

theorem tiles_cut (bytes : List UInt8) : Tiles bytes (cut bytes) := by
  induction bytes using cut.induct with
  | case1 =>
      rw [cut_nil]
      exact tiles_nil
  | case2 bytes nonempty induction =>
      rcases Nat.lt_or_ge bytes.length partSize with short | full
      · rw [cut_short nonempty short]
        exact tiles_single nonempty (Nat.le_of_lt short)
      · have size : (Bytes.ofList (bytes.take partSize)).size = partSize := by
          rw [Bytes.size_ofList, List.length_take, Nat.min_eq_left full]
        have tiles := induction.cons size
        rw [Bytes.toList_ofList, List.take_append_drop] at tiles
        rw [cut, if_neg nonempty]
        exact tiles

/-! ## Granted commands -/

/-- Whether a command was answered with a success that says what it should: the number of a new
upload, the tag of a part, or that nothing failed while an upload was completed. -/
structure IsGranted (asked : (asked : Exchange) × asked.Reply) : Prop where
  succeeds : Succeeds asked.2
  numbered : ∀ key, asked.1.command = startCommand key → (uploadId? asked.2).isSome
  tagged : ∀ key uploadId number part,
    asked.1.command = partCommand key uploadId number part → (tag? asked.2).isSome
  completed : ∀ key sent, asked.1.command = completionCommand key sent → IsComplete asked.2

/-- Whether exchanges send parts of an upload, one after another, and each got its tag. -/
def Sends (client : Client) (key : ObjectKey) (uploadId : String) (exchanges : Exchanges)
    (parts : List Part) : Prop :=
  exchanges.map (fun asked => (asked.1, tag? asked.2)) =
    parts.map fun part => (⟨client, part.command key.text uploadId⟩, some part.tag)

/-- How bytes are stored if every command is granted. -/
inductive Delivers (client : Client) (key : ObjectKey) (bytes : List UInt8) : Exchanges → Prop
  | whole {reply : Except RepoError Http.Response} (few : bytes.length < partSize) :
      Delivers client key bytes
        [⟨⟨client, wholeCommand key.text (Bytes.ofList bytes)⟩, reply⟩]
  | inParts {opened closed : Except RepoError Http.Response} {uploadId : String}
      {sendings : Exchanges} {parts : List Part} (many : partSize ≤ bytes.length)
      (given : uploadId? opened = some uploadId)
      (sends : Sends client key uploadId sendings parts)
      (numbers : parts.map Part.number = List.range' 1 parts.length)
      (bodies : parts.map Part.body = cut bytes) :
      Delivers client key bytes
        (⟨⟨client, startCommand key.text⟩, opened⟩ :: (sendings ++
          [⟨⟨client, completionCommand key.text ⟨uploadId, parts.map Part.named⟩⟩, closed⟩]))

/-- An upload that was begun: the store has given it a number, and tags to the parts that were
sent. -/
structure Progress (client : Client) (key : ObjectKey) (exchanges : Exchanges) (sent : SentParts)
    (parts : List Part) : Prop where
  sends : ∃ opened sendings, uploadId? opened = some sent.uploadId ∧
    Sends client key sent.uploadId sendings parts ∧
    exchanges = ⟨⟨client, startCommand key.text⟩, opened⟩ :: sendings
  named : sent.parts = parts.map Part.named
  numbers : parts.map Part.number = List.range' 1 parts.length

/-- Where an upload is once bytes were written to it and these parts of them were sent. -/
structure Standing (client : Client) (key : ObjectKey) (history : Exchanges) (bytes : List UInt8)
    (parts : List Part) (upload : Upload) : Prop where
  sameKey : upload.key = key
  content : bytesOf (parts.map Part.body) ++ upload.pending.data.toList = bytes
  full : ∀ part ∈ parts, part.body.size = partSize
  waits : upload.sent = none → history = [] ∧ parts = []
  goesOn : ∀ sent, upload.sent = some sent →
    parts ≠ [] ∧ Progress client key history sent parts

variable {client : Client} {key : ObjectKey} {exchanges history opening : Exchanges}
  {bytes : List UInt8} {parts : List Part} {upload after : Upload} {result : Except RepoError Unit}

theorem Progress.sameLength {sent : SentParts} (progress : Progress client key history sent parts) :
    sent.parts.length = parts.length := by
  rw [progress.named, List.length_map]

/-- Another part is sent under the next number. -/
theorem Progress.next {sent : SentParts} {tag : String} {reply : Except RepoError Http.Response}
    (progress : Progress client key history sent parts) (given : tag? reply = some tag)
    (body : ByteArray) :
    Progress client key
      (history ++ [⟨⟨client,
        partCommand key.text sent.uploadId (sent.parts.length + 1) body⟩, reply⟩])
      { sent with parts := sent.parts ++ [(sent.parts.length + 1, tag)] }
      (parts ++ [⟨parts.length + 1, body, tag⟩]) := by
  have sameLength := progress.sameLength
  rcases progress with ⟨⟨opened, sendings, isGiven, sends, rfl⟩, named, numbers⟩
  refine ⟨⟨opened, sendings ++ [_], isGiven, ?_, rfl⟩, ?_, ?_⟩
  · rw [Sends] at sends ⊢
    simp [sends, Part.command, sameLength, given]
  · simp [named, Part.named]
  · simp [numbers, List.range'_1_concat, Nat.add_comm]

/-- An upload is completed by naming all of its parts. -/
theorem Progress.delivers {sent : SentParts} (progress : Progress client key history sent parts)
    (many : partSize ≤ bytes.length) (bodies : parts.map Part.body = cut bytes)
    (closed : Except RepoError Http.Response) :
    Delivers client key bytes
      (history ++ [⟨⟨client, completionCommand key.text sent⟩, closed⟩]) := by
  rcases progress with ⟨⟨opened, sendings, given, sends, rfl⟩, named, numbers⟩
  have isNamed : sent = ⟨sent.uploadId, parts.map Part.named⟩ := by rw [← named]
  rw [isNamed]
  exact .inParts many given sends numbers bodies

/-- The upload that a part is sent of was begun, before or for this part. -/
theorem Standing.opens {sent : SentParts} {pending : ByteArray}
    (standing : Standing client key history bytes parts upload)
    (opens : Opens client { upload with pending } opening sent) :
    Progress client key (history ++ opening) sent parts := by
  cases opens with
  | begun isSent =>
      rw [List.append_nil]
      exact (standing.goesOn sent isSent).2
  | begins notSent given =>
      rcases standing.waits notSent with ⟨rfl, rfl⟩
      rw [standing.sameKey]
      exact ⟨⟨_, [], given, rfl, rfl⟩, rfl, rfl⟩

/-- A full part is sent if this is granted. -/
theorem Standing.flush (standing : Standing client key history bytes parts upload)
    (full : partSize ≤ upload.pending.size)
    (flushes : Flushes client
      { upload with pending := upload.pending.extract partSize upload.pending.size }
      (upload.pending.extract 0 partSize) exchanges result after)
    (granted : ∀ asked ∈ exchanges, IsGranted asked) :
    result = .ok () ∧ ∃ part,
      Standing client key (history ++ exchanges) bytes (parts ++ [part]) after := by
  cases flushes with
  | refused notSent given =>
      have numbered := (granted _ (List.mem_singleton_self _)).numbered _ rfl
      rw [given] at numbered
      cases numbered
  | lost opens given =>
      have tagged := (granted _ (List.mem_append_right _ (List.mem_singleton_self _))).tagged
        _ _ _ _ rfl
      rw [given] at tagged
      cases tagged
  | @arrived opening sent reply tag opens given =>
      cases standing.sameKey
      have progress := (standing.opens opens).next given (upload.pending.extract 0 partSize)
      rw [List.append_assoc] at progress
      let part : Part := ⟨parts.length + 1, upload.pending.extract 0 partSize, tag⟩
      have size : part.body.size = partSize := by
        rw [ByteArray.size_extract]
        exact Nat.min_eq_left full
      refine ⟨rfl, part, rfl, ?_, ?_, (nomatch ·), ?_⟩
      · rw [List.map_append, List.map_singleton, bytesOf_concat, List.append_assoc,
          ← ByteArray.toList_data_append, ByteArray.extract_append_extract,
          Nat.min_eq_left (Nat.zero_le _), Nat.max_eq_right full, ByteArray.extract_zero_size]
        exact standing.content
      · exact List.forall_mem_append.mpr ⟨standing.full, List.forall_mem_singleton.mpr size⟩
      · intro last same
        cases same
        exact ⟨List.concat_ne_nil _ _, progress⟩

/-- All full parts are sent if this is granted. -/
theorem Standing.flushAll (standing : Standing client key history bytes parts upload)
    (flushes : FlushesAll client upload exchanges result after)
    (granted : ∀ asked ∈ exchanges, IsGranted asked) :
    result = .ok () ∧ after.pending.size < partSize ∧
      ∃ all, Standing client key (history ++ exchanges) bytes all after := by
  induction flushes generalizing history parts with
  | done short =>
      rw [List.append_nil]
      exact ⟨rfl, short, parts, standing⟩
  | stop full flushes =>
      rcases standing.flush full flushes granted with ⟨impossible, -⟩
      cases impossible
  | next full flushes rest induction =>
      rcases List.forall_mem_append.mp granted with ⟨grantedEarly, grantedLate⟩
      rcases standing.flush full flushes grantedEarly with ⟨-, part, standingNow⟩
      rw [← List.append_assoc]
      exact induction standingNow grantedLate

theorem Standing.append (standing : Standing client key history bytes parts upload)
    (chunk : ByteArray) :
    Standing client key history (bytes ++ chunk.data.toList) parts
      { upload with pending := upload.pending ++ chunk } := by
  refine ⟨standing.sameKey, ?_, standing.full, standing.waits, standing.goesOn⟩
  rw [ByteArray.toList_data_append, ← List.append_assoc, standing.content]

/-- A write sends all full parts, so less than a part is pending behind it. -/
theorem Standing.write {chunk : ByteArray}
    (standing : Standing client key history bytes parts upload)
    (goes : (client.write upload chunk).Goes exchanges (result, after))
    (granted : ∀ asked ∈ exchanges, IsGranted asked) :
    result = .ok () ∧ after.pending.size < partSize ∧
      ∃ all, Standing client key (history ++ exchanges) (bytes ++ chunk.data.toList) all after :=
  (standing.append chunk).flushAll (goes_write goes) granted

theorem Standing.writeAll {chunks : List ByteArray} {outcomes : List (Except RepoError Unit)}
    (standing : Standing client key history bytes parts upload)
    (short : upload.pending.size < partSize)
    (goes : (client.writeAll upload chunks).Goes exchanges (outcomes, after))
    (granted : ∀ asked ∈ exchanges, IsGranted asked) :
    outcomes = chunks.map (fun _ => .ok ()) ∧ after.pending.size < partSize ∧
      ∃ all, Standing client key (history ++ exchanges) (bytes ++ bytesOf chunks) all after := by
  induction chunks generalizing upload history bytes exchanges outcomes parts with
  | nil =>
      rcases Goes.done_iff.mp goes with ⟨same, rfl⟩
      cases same
      rw [List.append_nil, bytesOf, List.flatMap_nil, List.append_nil]
      exact ⟨rfl, short, parts, standing⟩
  | cons chunk chunks induction =>
      rcases Goes.andThen_iff.mp goes with ⟨⟨outcome, middle⟩, early, _, rfl, writing, rest⟩
      rcases Goes.andThen_iff.mp rest with ⟨⟨others, last⟩, late, _, rfl, writingOn, ended⟩
      rcases Goes.done_iff.mp ended with ⟨same, rfl⟩
      cases same
      rw [List.append_nil] at granted ⊢
      rcases List.forall_mem_append.mp granted with ⟨grantedEarly, grantedLate⟩
      rcases standing.write writing grantedEarly with ⟨rfl, shortNow, now, standingNow⟩
      rcases induction standingNow shortNow writingOn grantedLate with
        ⟨rfl, shortThen, all, standingThen⟩
      rw [List.append_assoc, List.append_assoc] at standingThen
      exact ⟨rfl, shortThen, all, standingThen⟩

theorem standing_begin (client : Client) (key : ObjectKey) :
    Standing client key [] [] [] (Upload.begin key) := by
  refine ⟨rfl, rfl, by simp, fun _ => ⟨rfl, rfl⟩, ?_⟩
  intro sent impossible
  cases impossible

/-- The parts that were sent are the first that the bytes are cut into. -/
theorem Standing.cut_eq (standing : Standing client key history bytes parts upload) :
    cut bytes = parts.map Part.body ++ cut upload.pending.data.toList := by
  rw [← standing.content]
  exact cut_bytesOf_append (List.forall_mem_map.mpr standing.full) _

/-- If a part was sent, the bytes are not fewer than those of a part. -/
theorem Standing.many (standing : Standing client key history bytes parts upload)
    (nonempty : parts ≠ []) : partSize ≤ bytes.length := by
  rcases List.exists_cons_of_ne_nil nonempty with ⟨part, others, rfl⟩
  have size : part.body.data.toList.length = partSize :=
    standing.full part List.mem_cons_self
  rw [← standing.content, List.map_cons, bytesOf, List.flatMap_cons, List.append_assoc,
    List.length_append, size]
  exact Nat.le_add_right _ _

/-- What is pending is sent as the last part, or as the whole if no part was sent. -/
theorem Standing.finish (standing : Standing client key history bytes parts upload)
    (short : upload.pending.size < partSize)
    (goes : (client.finish upload).run.Goes exchanges result)
    (granted : ∀ asked ∈ exchanges, IsGranted asked) :
    result = .ok () ∧ Delivers client key bytes (history ++ exchanges) := by
  cases standing.sameKey
  have cuts := standing.cut_eq
  cases goes_finish goes with
  | whole notSent succeeds =>
      rcases standing.waits notSent with ⟨rfl, rfl⟩
      have isPending : upload.pending.data.toList = bytes := standing.content
      have few : bytes.length < partSize := by
        rw [← isPending]
        exact short
      rw [← Bytes.ofList_toList upload.pending, isPending]
      exact ⟨succeeds.mpr (granted _ (List.mem_singleton_self _)).succeeds, .whole few⟩
  | completed isSent nothing completes =>
      rcases standing.goesOn _ isSent with ⟨nonempty, progress⟩
      have isComplete := (granted _ (List.mem_singleton_self _)).completed _ _ rfl
      have noMore : cut upload.pending.data.toList = [] := by
        rw [nothing]
        exact cut_nil
      rw [noMore, List.append_nil] at cuts
      exact ⟨completes.mpr isComplete, progress.delivers (standing.many nonempty) cuts.symm _⟩
  | lost isSent given =>
      have tagged := (granted _ (List.mem_singleton_self _)).tagged _ _ _ _ rfl
      rw [given] at tagged
      cases tagged
  | @arrived sent answer reply tag _ isSent something given completes =>
      rcases standing.goesOn _ isSent with ⟨nonempty, progress⟩
      have isComplete := (granted _ (List.mem_cons_of_mem _ (List.mem_singleton_self _))).completed
        _ _ rfl
      have oneMore : cut upload.pending.data.toList = [upload.pending] := by
        have notNil : upload.pending.data.toList ≠ [] :=
          List.length_pos_iff.mp (Nat.pos_of_ne_zero something)
        rw [cut_short notNil short, Bytes.ofList_toList]
      rw [oneMore] at cuts
      have delivers := (progress.next given upload.pending).delivers (standing.many nonempty)
        (by rw [cuts, List.map_append, List.map_singleton]) reply
      rw [List.append_assoc] at delivers
      exact ⟨completes.mpr isComplete, delivers⟩

/-! ## Uploads -/

/-- Write chunks to a new upload, whatever comes of each of them, and finish it. -/
def deliver (client : Client) (key : ObjectKey) (chunks : List ByteArray) :
    Dialogue Exchange Exchange.Reply (List (Except RepoError Unit) × Except RepoError Unit) := do
  let (outcomes, upload) ← client.writeAll (Upload.begin key) chunks
  let finished ← (client.finish upload).run
  return (outcomes, finished)

/-- An upload that is granted everything succeeds, and stores what was written: in one piece if that
is less than a part, and else in the parts that it is cut into, under the number that the store has
given, numbered from one on and named at the end with the tags that the store gave to them. How the
bytes came in chunks makes no difference. -/
theorem deliver_cuts (client : Client) (key : ObjectKey) {chunks : List ByteArray}
    {exchanges : Exchanges} {outcomes : List (Except RepoError Unit)}
    {finished : Except RepoError Unit}
    (goes : (client.deliver key chunks).Goes exchanges (outcomes, finished))
    (granted : ∀ asked ∈ exchanges, IsGranted asked) :
    outcomes = chunks.map (fun _ => .ok ()) ∧ finished = .ok () ∧
      Delivers client key (bytesOf chunks) exchanges ∧
      Tiles (bytesOf chunks) (cut (bytesOf chunks)) := by
  rcases Goes.andThen_iff.mp goes with ⟨⟨written, upload⟩, early, _, rfl, writing, rest⟩
  rcases Goes.andThen_iff.mp rest with ⟨ended, late, _, rfl, finishing, done⟩
  rcases Goes.done_iff.mp done with ⟨same, rfl⟩
  cases same
  rw [List.append_nil] at granted ⊢
  rcases List.forall_mem_append.mp granted with ⟨grantedEarly, grantedLate⟩
  have begun : (Upload.begin key).pending.size < partSize := by
    change 0 < partSize
    decide
  rcases (standing_begin client key).writeAll begun writing grantedEarly with
    ⟨rfl, short, parts, standing⟩
  rcases standing.finish short finishing grantedLate with ⟨rfl, delivers⟩
  exact ⟨rfl, rfl, delivers, tiles_cut _⟩

/-! A full part and one byte more, at a store that grants everything. -/

private def grant : Http.Response :=
  ⟨200, [("etag", "t")], "<UploadId>1</UploadId>".toUTF8⟩

private def patron (_ : Unit) (asked : Exchange) : Exchange.Reply asked × Unit := (.ok grant, ())

private theorem isGranted_grant (asked : Exchange) : IsGranted ⟨asked, .ok grant⟩ := by
  have success : success? (.ok grant) = some grant := rfl
  have numbered : (uploadId? (.ok grant)).isSome := by
    rw [uploadId?, success]
    decide +kernel
  refine ⟨⟨grant, rfl, rfl⟩, fun _ _ => numbered, fun _ _ _ _ _ => rfl, fun _ _ _ => ?_⟩
  exact ⟨grant, success, by decide +kernel⟩

private theorem isGranted_of_patron {Result : Type}
    (dialogue : Dialogue Exchange Exchange.Reply Result) :
    ∀ asked ∈ dialogue.transcript patron (), IsGranted asked := by
  induction dialogue with
  | done result => simp [transcript]
  | ask asked next induction =>
      exact List.forall_mem_cons.mpr ⟨isGranted_grant asked, induction _⟩

private theorem exists_size_eq (size : Nat) : ∃ bytes : ByteArray, bytes.size = size :=
  ⟨⟨Array.replicate size 0⟩, Array.size_replicate⟩

private def carrier : Client := ⟨"bucket", "us-east-1", none, "AK", "SK", none⟩

/-- Bytes of more than one part and not more than two go in two. -/
private theorem Delivers.length_eq (delivers : Delivers client key bytes exchanges)
    (many : partSize < bytes.length) (few : bytes.length ≤ 2 * partSize) :
    exchanges.length = 4 := by
  cases delivers with
  | whole fewer => exact absurd fewer (Nat.lt_asymm many)
  | inParts _ given sends numbers bodies =>
      have sent := congrArg List.length sends
      have cuts := (congrArg List.length bodies).trans (tiles_cut bytes).count
      rw [List.length_map, List.length_map] at sent
      rw [List.length_map] at cuts
      rw [partSize] at many few cuts
      rw [List.length_cons, List.length_append, List.length_singleton, sent, cuts]
      omega

theorem deliver_cuts_two_parts :
    ∃ full last exchanges outcomes finished,
      (carrier.deliver ⟨"a/f"⟩ [full, last]).Goes exchanges (outcomes, finished) ∧
      (∀ asked ∈ exchanges, IsGranted asked) ∧ full.size = partSize ∧ last.size = 1 ∧
      outcomes = [.ok (), .ok ()] ∧ finished = .ok () ∧ exchanges.length = 4 := by
  rcases exists_size_eq partSize with ⟨full, size⟩
  rcases exists_size_eq 1 with ⟨last, sizeLast⟩
  have goes := goes_run patron (carrier.deliver ⟨"a/f"⟩ [full, last]) ()
  have granted := isGranted_of_patron (carrier.deliver ⟨"a/f"⟩ [full, last])
  rcases deliver_cuts carrier ⟨"a/f"⟩ goes granted with ⟨outcomes, finished, delivers, -⟩
  have length : (bytesOf [full, last]).length = partSize + 1 := by
    simp [bytesOf, size, sizeLast]
  refine ⟨full, last, _, _, _, goes, granted, size, sizeLast, outcomes, finished,
    delivers.length_eq ?_ ?_⟩
  · rw [length]
    exact Nat.lt_succ_self _
  · rw [length, partSize]
    omega

end Client

end Depot.S3
