import Depot.Proofs.Parts

/-!
What a finished upload holds. Whoever writes can go on after a write that failed; the part that could
not be sent is lost then, whichever writes its bytes came from, and all else is in the object.
-/

namespace Depot.S3

open Dialogue

/-! ## Groups of a list -/

section Groups

variable {Item Other : Type} (size : Nat)

/-- The groups of `size` items that are flagged. -/
def flagged : List Bool → List Item → List Item
  | [], _ => []
  | flag :: flags, items =>
      (if flag then items.take size else []) ++ flagged flags (items.drop size)

/-- The groups of `size` items that are flagged, and the items behind the groups that have flags. -/
def kept : List Bool → List Item → List Item
  | [], items => items
  | flag :: flags, items => (if flag then items.take size else []) ++ kept flags (items.drop size)

variable {size} {flags : List Bool} {items : List Item}

theorem kept_eq : kept size flags items =
    flagged size flags items ++ items.drop (size * flags.length) := by
  induction flags generalizing items with
  | nil => simp [kept, flagged]
  | cons flag flags induction =>
      rw [kept, flagged, induction, List.drop_drop, List.length_cons, Nat.mul_succ, Nat.add_comm,
        List.append_assoc]

theorem flagged_concat {flag : Bool} : flagged size (flags ++ [flag]) items =
    flagged size flags items ++
      if flag then (items.drop (size * flags.length)).take size else [] := by
  induction flags generalizing items with
  | nil => simp [flagged]
  | cons first flags induction =>
      rw [List.cons_append, flagged, flagged, induction, List.drop_drop, List.length_cons,
        Nat.mul_succ, Nat.add_comm size, List.append_assoc]

theorem flagged_append {more : List Item} (enough : size * flags.length ≤ items.length) :
    flagged size flags (items ++ more) = flagged size flags items := by
  induction flags generalizing items with
  | nil => rfl
  | cons flag flags induction =>
      rw [List.length_cons, Nat.mul_succ] at enough
      have first : size ≤ items.length := by omega
      rw [flagged, flagged, List.take_append_of_le_length first,
        List.drop_append_of_le_length first, induction (by rw [List.length_drop]; omega)]

theorem map_kept (change : Item → Other) :
    (kept size flags items).map change = kept size flags (items.map change) := by
  induction flags generalizing items with
  | nil => rfl
  | cons flag flags induction =>
      rw [kept, kept, List.map_append, induction, List.map_drop]
      cases flag <;> simp

theorem kept_sublist : (kept size flags items).Sublist items := by
  induction flags generalizing items with
  | nil => exact .refl items
  | cons flag flags induction =>
      have first : (if flag then items.take size else []).Sublist (items.take size) := by
        cases flag with
        | true => exact .refl _
        | false => exact List.nil_sublist _
      have both : (kept size (flag :: flags) items).Sublist (items.take size ++ items.drop size) :=
        first.append induction
      rwa [List.take_append_drop] at both

/-- If no item of a group that is not flagged has a property, all items that have it are kept. -/
theorem filter_kept {property : Item → Bool}
    (others : ∀ item ∈ flagged size (flags.map not) items, property item = false) :
    (kept size flags items).filter property = items.filter property := by
  induction flags generalizing items with
  | nil => rfl
  | cons flag flags induction =>
      rw [List.map_cons, flagged, List.forall_mem_append] at others
      have first : (if flag then items.take size else []).filter property =
          (items.take size).filter property := by
        cases flag with
        | true => rfl
        | false =>
            symm
            exact List.filter_eq_nil_iff.mpr fun item member => by simp [others.1 item member]
      rw [kept, List.filter_append, first, induction others.2, ← List.filter_append,
        List.take_append_drop]

end Groups

/-! ## Parts -/

/-- A part of an upload as it was sent, with the tag that the store gave to it. -/
structure Part where
  number : Nat
  body : ByteArray
  tag : String

namespace Part

/-- What completing an upload says about a part. -/
def named (part : Part) : Nat × String := (part.number, part.tag)

def command (key uploadId : String) (part : Part) : Command :=
  Client.partCommand key uploadId part.number part.body

/-- The bytes of parts, one after another. -/
def content : List Part → ByteArray
  | [] => .empty
  | part :: parts => part.body ++ content parts

theorem content_concat (parts : List Part) (part : Part) :
    content (parts ++ [part]) = content parts ++ part.body := by
  induction parts with
  | nil => simp [content]
  | cons first parts induction => simp [content, induction, ByteArray.append_assoc]

end Part

namespace Exchanges

/-- The command of an exchange that gave a part to the store, with the tag. -/
def arrival? (asked : (asked : Exchange) × asked.Reply) : Option (Command × String) :=
  match asked.1.command.method with
  | .put => (tag? asked.2).map fun tag => (asked.1.command, tag)
  | _ => none

/-- What an exchange says of a part that is to be sent: whether it arrived, or that it could not be
sent because the upload could not be begun. -/
def fate? (asked : (asked : Exchange) × asked.Reply) : Option Bool :=
  match asked.1.command.method with
  | .put => some (tag? asked.2).isSome
  | _ => if (uploadId? asked.2).isSome then none else some false

/-- Which parts arrived, of those that left what is pending. -/
def fates (exchanges : Exchanges) : List Bool := exchanges.filterMap fate?

theorem fates_append (early late : Exchanges) :
    fates (early ++ late) = early.fates ++ late.fates := List.filterMap_append

/-- Whether an object with this content was committed: it was sent in one piece, or in parts which
are those that the completion names, in order. -/
def Commit (exchanges : Exchanges) (client : Client) (key : ObjectKey) (content : ByteArray) :
    Prop :=
  (∃ before reply, Succeeds reply ∧
    exchanges = before ++ [⟨⟨client, Client.wholeCommand key.text content⟩, reply⟩]) ∨
  ∃ before uploadId parts reply, IsComplete reply ∧
    exchanges = before ++
      [⟨⟨client, Client.completionCommand key.text ⟨uploadId, parts.map Part.named⟩⟩, reply⟩] ∧
    exchanges.filterMap arrival? = parts.map (fun part => (part.command key.text uploadId, part.tag)) ∧
    content = Part.content parts

end Exchanges

/-! ## Writes -/

namespace Client

/-- Write chunks, whatever comes of each of them. -/
def writeAll (client : Client) (upload : Upload) : List ByteArray →
    Dialogue Exchange Exchange.Reply (List (Except RepoError Unit) × Upload)
  | [] => .done ([], upload)
  | chunk :: chunks => do
      let (outcome, upload) ← client.write upload chunk
      let (outcomes, upload) ← client.writeAll upload chunks
      return (outcome :: outcomes, upload)

/-- Whether what was sent are the parts that arrived, and hold what they should of the bytes. -/
def Holds (key : ObjectKey) (exchanges : Exchanges) (bytes : List UInt8) (sent : SentParts) : Prop :=
  ∃ parts, sent.parts = parts.map Part.named ∧
    exchanges.filterMap Exchanges.arrival? =
      parts.map (fun part => (part.command key.text sent.uploadId, part.tag)) ∧
    (Part.content parts).data.toList = flagged partSize exchanges.fates bytes

/-- Where an upload is after exchanges for the bytes that were written. Each part that left what is
pending has its fate, and what arrived is in the upload, if one was begun. -/
structure Reflects (key : ObjectKey) (exchanges : Exchanges) (bytes : List UInt8)
    (upload : Upload) : Prop where
  sameKey : upload.key = key
  enough : partSize * exchanges.fates.length ≤ bytes.length
  pending : upload.pending.data.toList = bytes.drop (partSize * exchanges.fates.length)
  holds : ∀ sent : SentParts, upload.sent = some sent ∨ upload.sent = none ∧ sent.parts = [] →
    Holds key exchanges bytes sent

variable {client : Client} {key : ObjectKey} {exchanges history opening : Exchanges}
  {bytes : List UInt8} {upload after : Upload} {result : Except RepoError Unit}

theorem Opens.quiet {sent : SentParts} (opens : Opens client upload opening sent) :
    opening.fates = [] ∧ opening.filterMap Exchanges.arrival? = [] := by
  cases opens with
  | begun isSent => exact ⟨rfl, rfl⟩
  | begins notSent given =>
      simp [Exchanges.fates, Exchanges.fate?, Exchanges.arrival?, startCommand, plain, given]

theorem Opens.goesOn {sent : SentParts} (opens : Opens client upload opening sent) :
    upload.sent = some sent ∨ upload.sent = none ∧ sent.parts = [] := by
  cases opens with
  | begun isSent => exact .inl isSent
  | begins notSent given => exact .inr ⟨notSent, rfl⟩

/-- The part of a step has its fate in the exchanges of the step. -/
theorem Flushes.fates {part : ByteArray}
    (flushes : Flushes client upload part exchanges result after) :
    exchanges.fates = [succeeded result] := by
  cases flushes with
  | refused notSent given =>
      simp [Exchanges.fates, Exchanges.fate?, startCommand, plain, given, succeeded]
  | lost opens given =>
      have quiet := opens.quiet.1
      simp_all [Exchanges.fates, Exchanges.fate?, partCommand, plain, succeeded]
  | arrived opens given =>
      have quiet := opens.quiet.1
      simp_all [Exchanges.fates, Exchanges.fate?, partCommand, plain, succeeded]

theorem Holds.lose {sent : SentParts} (holds : Holds key history bytes sent)
    (fates : exchanges.fates = [false])
    (nothing : exchanges.filterMap Exchanges.arrival? = []) :
    Holds key (history ++ exchanges) bytes sent := by
  rcases holds with ⟨parts, named, arrivals, content⟩
  refine ⟨parts, named, ?_, ?_⟩
  · rw [List.filterMap_append, nothing, List.append_nil, arrivals]
  · rw [Exchanges.fates_append, fates, flagged_concat, content]
    simp

theorem Holds.gain {sent : SentParts} (part : Part) (holds : Holds key history bytes sent)
    (fates : exchanges.fates = [true])
    (arrives : exchanges.filterMap Exchanges.arrival? =
      [(part.command key.text sent.uploadId, part.tag)])
    (isPart : part.body.data.toList =
      (bytes.drop (partSize * history.fates.length)).take partSize) :
    Holds key (history ++ exchanges) bytes { sent with parts := sent.parts ++ [part.named] } := by
  rcases holds with ⟨parts, named, arrivals, content⟩
  refine ⟨parts ++ [part], by simp [named], ?_, ?_⟩
  · rw [List.filterMap_append, arrives, arrivals, List.map_append, List.map_singleton]
  · rw [Exchanges.fates_append, fates, flagged_concat, Part.content_concat,
      ByteArray.toList_data_append, content, isPart]
    simp

/-- Sending a part keeps the record of an upload: the part leaves what is pending and gets its
fate. -/
theorem Reflects.flush (reflects : Reflects key history bytes upload)
    (full : partSize ≤ upload.pending.size)
    (flushes : Flushes client
      { upload with pending := upload.pending.extract partSize upload.pending.size }
      (upload.pending.extract 0 partSize) exchanges result after) :
    Reflects key (history ++ exchanges) bytes after := by
  have size : upload.pending.size = bytes.length - partSize * history.fates.length := by
    rw [← List.length_drop, ← reflects.pending]
    rfl
  have oneMore : (Exchanges.fates (history ++ exchanges)).length = history.fates.length + 1 := by
    rw [Exchanges.fates_append, flushes.fates, List.length_append, List.length_singleton]
  have isPart : (upload.pending.extract 0 partSize).data.toList =
      (bytes.drop (partSize * history.fates.length)).take partSize := by
    rw [← reflects.pending]
    simp
  refine ⟨flushes.sameKey.trans reflects.sameKey, ?_, ?_, ?_⟩
  · rw [oneMore, Nat.mul_succ]
    have := reflects.enough
    omega
  · rw [flushes.samePending, oneMore, Nat.mul_succ, ← List.drop_drop, ← reflects.pending]
    simp only [ByteArray.data_extract, Array.toList_extract, List.extract_eq_take_drop]
    refine List.take_of_length_le (Nat.le_of_eq ?_)
    rw [List.length_drop, Array.length_toList, ByteArray.size_data]
  · have fates := flushes.fates
    cases flushes with
    | refused notSent given =>
        intro sent goesOn
        exact (reflects.holds sent goesOn).lose fates rfl
    | lost opens given =>
        intro sent goesOn
        rcases goesOn with same | ⟨none, -⟩
        · cases same
          refine (reflects.holds _ opens.goesOn).lose fates ?_
          rw [List.filterMap_append, opens.quiet.2]
          simp [Exchanges.arrival?, partCommand, plain, given]
        · cases none
    | @arrived opening sent reply tag opens given =>
        intro last goesOn
        rcases goesOn with same | ⟨none, -⟩
        · cases same
          let part : Part := ⟨sent.parts.length + 1, upload.pending.extract 0 partSize, tag⟩
          refine (reflects.holds _ opens.goesOn).gain part fates ?_ isPart
          rw [List.filterMap_append, opens.quiet.2, ← reflects.sameKey]
          simp [Exchanges.arrival?, Part.command, partCommand, plain, given, part]
        · cases none

theorem Reflects.flushAll (reflects : Reflects key history bytes upload)
    (flushes : FlushesAll client upload exchanges result after) :
    Reflects key (history ++ exchanges) bytes after ∧
      exchanges.fates.count false = if succeeded result then 0 else 1 := by
  induction flushes generalizing history with
  | done short =>
      rw [List.append_nil]
      exact ⟨reflects, rfl⟩
  | stop full flushes =>
      refine ⟨reflects.flush full flushes, ?_⟩
      rw [flushes.fates]
      rfl
  | next full flushes rest induction =>
      rcases induction (reflects.flush full flushes) with ⟨reflects, count⟩
      rw [List.append_assoc] at reflects
      refine ⟨reflects, ?_⟩
      rw [Exchanges.fates_append, flushes.fates, List.count_append, count]
      simp [succeeded]

/-- More bytes at the end change nothing of what was sent. -/
theorem Reflects.append (reflects : Reflects key history bytes upload) (chunk : ByteArray) :
    Reflects key history (bytes ++ chunk.data.toList)
      { upload with pending := upload.pending ++ chunk } := by
  refine ⟨reflects.sameKey, ?_, ?_, ?_⟩
  · rw [List.length_append]
    exact Nat.le_add_right_of_le reflects.enough
  · rw [ByteArray.toList_data_append, reflects.pending,
      List.drop_append_of_le_length reflects.enough]
  · intro sent goesOn
    rcases reflects.holds sent goesOn with ⟨parts, named, arrivals, content⟩
    exact ⟨parts, named, arrivals, by rw [content, flagged_append reflects.enough]⟩

/-- The bytes of chunks, one after another. -/
def bytesOf (chunks : List ByteArray) : List UInt8 := chunks.flatMap fun chunk => chunk.data.toList

theorem Reflects.writeAll {chunks : List ByteArray} {outcomes : List (Except RepoError Unit)}
    (reflects : Reflects key history bytes upload)
    (goes : (client.writeAll upload chunks).Goes exchanges (outcomes, after)) :
    Reflects key (history ++ exchanges) (bytes ++ bytesOf chunks) after ∧
      exchanges.fates.count false = outcomes.countP (fun outcome => !succeeded outcome) ∧
      outcomes.length = chunks.length := by
  induction chunks generalizing upload history bytes exchanges outcomes with
  | nil =>
      rcases Goes.done_iff.mp goes with ⟨same, rfl⟩
      cases same
      rw [List.append_nil, bytesOf, List.flatMap_nil, List.append_nil]
      exact ⟨reflects, rfl, rfl⟩
  | cons chunk chunks induction =>
      rcases Goes.andThen_iff.mp goes with ⟨⟨outcome, middle⟩, early, _, rfl, writing, rest⟩
      rcases Goes.andThen_iff.mp rest with ⟨⟨others, last⟩, late, _, rfl, writingOn, ended⟩
      rcases Goes.done_iff.mp ended with ⟨same, rfl⟩
      cases same
      rcases (reflects.append chunk).flushAll (goes_write writing) with ⟨now, count⟩
      rcases induction now writingOn with ⟨reflectsAll, counts, lengths⟩
      rw [List.append_assoc, List.append_assoc] at reflectsAll
      rw [List.append_nil, Exchanges.fates_append, List.count_append, count, counts,
        List.countP_cons, List.length_cons, List.length_cons, lengths]
      refine ⟨reflectsAll, ?_, rfl⟩
      cases succeeded outcome <;> simp [Nat.add_comm]

theorem reflects_begin (key : ObjectKey) : Reflects key [] [] (Upload.begin key) := by
  refine ⟨rfl, Nat.le_refl _, rfl, ?_⟩
  intro sent goesOn
  rcases goesOn with same | ⟨-, nothing⟩
  · cases same
  · exact ⟨[], nothing, rfl, rfl⟩

theorem commit_of_arrivals {parts : List Part} {sent : SentParts}
    {reply : Except RepoError Http.Response} (isComplete : IsComplete reply)
    (named : sent.parts = parts.map Part.named)
    (arrivals : history.filterMap Exchanges.arrival? =
      parts.map fun part => (part.command key.text sent.uploadId, part.tag)) :
    Exchanges.Commit (history ++ [⟨⟨client, completionCommand key.text sent⟩, reply⟩]) client key
      (Part.content parts) := by
  refine .inr ⟨history, sent.uploadId, parts, reply, isComplete, by rw [← named], ?_, rfl⟩
  rw [List.filterMap_append, arrivals]
  exact List.append_nil _

/-- An upload that can be finished has committed what arrived and what was still pending. -/
theorem Reflects.finish (reflects : Reflects key history bytes upload)
    (goes : (client.finish upload).run.Goes exchanges (.ok ())) :
    ∃ content, Exchanges.Commit (history ++ exchanges) client key content ∧
      content.data.toList = kept partSize history.fates bytes := by
  rw [kept_eq, ← reflects.pending]
  rcases reflects with ⟨rfl, -, -, holds⟩
  cases goes_finish goes with
  | whole notSent succeeds =>
      rcases holds ⟨"", []⟩ (.inr ⟨notSent, rfl⟩) with ⟨parts, named, -, content⟩
      rw [List.map_eq_nil_iff.mp named.symm] at content
      refine ⟨upload.pending, .inl ⟨history, _, succeeds.mp rfl, rfl⟩, ?_⟩
      rw [← content]
      rfl
  | completed isSent nothing completes =>
      rcases holds _ (.inl isSent) with ⟨parts, named, arrivals, content⟩
      refine ⟨Part.content parts, commit_of_arrivals (completes.mp rfl) named arrivals, ?_⟩
      rw [content, nothing]
      exact (List.append_nil _).symm
  | @arrived sent _ _ tag _ isSent something given completes =>
      rcases holds sent (.inl isSent) with ⟨parts, named, arrivals, content⟩
      let part : Part := ⟨sent.parts.length + 1, upload.pending, tag⟩
      refine ⟨Part.content (parts ++ [part]), ?_, ?_⟩
      · rw [← List.singleton_append, ← List.append_assoc]
        refine commit_of_arrivals (completes.mp rfl) (by simp [named, part, Part.named]) ?_
        rw [List.filterMap_append, arrivals, List.map_append]
        simp [Exchanges.arrival?, Part.command, partCommand, plain, given, part]
      · rw [Part.content_concat, ByteArray.toList_data_append, content]

/-! ## Objects -/

/-- The bytes of chunks, each with whether its write succeeded. -/
def marked : List ByteArray → List (Except RepoError Unit) → List (UInt8 × Bool)
  | chunk :: chunks, outcome :: outcomes =>
      (chunk.data.toList.map fun byte => (byte, succeeded outcome)) ++ marked chunks outcomes
  | _, _ => []

theorem map_fst_marked {chunks : List ByteArray} {outcomes : List (Except RepoError Unit)}
    (sameLength : outcomes.length = chunks.length) :
    (marked chunks outcomes).map Prod.fst = bytesOf chunks := by
  induction chunks generalizing outcomes with
  | nil => cases outcomes <;> rfl
  | cons chunk chunks induction =>
      cases outcomes with
      | nil => cases sameLength
      | cons outcome outcomes =>
          rw [marked, List.map_append, induction (Nat.succ.inj sameLength), bytesOf, bytesOf,
            List.flatMap_cons, List.map_map]
          congr 1
          exact List.map_id _

/-- Whether content keeps every byte whose write succeeded, in order and with nothing between them
but bytes of other writes. -/
def KeepsWritten (content : ByteArray) (written : List (UInt8 × Bool)) : Prop :=
  ∃ left : List (UInt8 × Bool), left.Sublist written ∧
    left.filter Prod.snd = written.filter Prod.snd ∧ content.data.toList = left.map Prod.fst

/-- Whatever a store answers and whichever writes failed, an upload that could be finished has
committed the bytes of all writes but for the parts that did not arrive, of which each write that
failed has one. So if those hold no byte of a write that succeeded, all that was written is there. -/
theorem finish_commits (client : Client) (key : ObjectKey) {chunks : List ByteArray}
    {outcomes : List (Except RepoError Unit)} {upload : Upload} {early late : Exchanges}
    (writing : (client.writeAll (Upload.begin key) chunks).Goes early (outcomes, upload))
    (finishing : (client.finish upload).run.Goes late (.ok ())) :
    ∃ content, Exchanges.Commit (early ++ late) client key content ∧
      content.data.toList =
        (kept partSize early.fates (marked chunks outcomes)).map Prod.fst ∧
      early.fates.count false = outcomes.countP (fun outcome => !succeeded outcome) ∧
      ((∀ byte ∈ flagged partSize (early.fates.map not) (marked chunks outcomes), byte.2 = false) →
        KeepsWritten content (marked chunks outcomes)) := by
  rcases (reflects_begin key).writeAll writing with ⟨reflects, count, sameLength⟩
  rw [List.nil_append, List.nil_append, ← map_fst_marked sameLength] at reflects
  rcases reflects.finish finishing with ⟨content, commit, bytes⟩
  rw [← map_kept] at bytes
  refine ⟨content, commit, bytes, count, fun harmless => ?_⟩
  exact ⟨_, kept_sublist, filter_kept harmless, bytes⟩

/-! A write of one part that fails since the store refuses to begin the upload. -/

private def porter : Client := ⟨"bucket", "us-east-1", none, "AK", "SK", none⟩

private def parcel : ObjectKey := ⟨"parcel"⟩

private def zeros : ByteArray := ⟨Array.replicate partSize 0⟩

private theorem size_zeros : zeros.size = partSize := Array.size_replicate

private def behindPart (pending : ByteArray) : ByteArray :=
  (pending ++ zeros).extract partSize (pending ++ zeros).size

private theorem behindPart_toList {pending : ByteArray} (short : pending.size < partSize) :
    (behindPart pending).data.toList = List.replicate pending.size 0 := by
  have sameSize : pending.data.toList.length = pending.size := rfl
  have allOfFirst : pending.data.toList.drop partSize = [] :=
    List.drop_eq_nil_of_le (Nat.le_of_lt short)
  rw [behindPart, ByteArray.data_extract, Array.toList_extract, List.extract_eq_take_drop,
    List.take_of_length_le (by simp [ByteArray.size_data]), ByteArray.toList_data_append,
    List.drop_append, allOfFirst, zeros, Array.toList_replicate, List.drop_replicate, sameSize]
  simp only [List.nil_append]
  congr 1
  omega

private def refusal : Except RepoError Http.Response := .ok ⟨500, [], .empty⟩

private def acceptance : Except RepoError Http.Response := .ok ⟨200, [], .empty⟩

private def refused : Exchanges := [⟨⟨porter, startCommand parcel.text⟩, refusal⟩]

private def notBegun : RepoError :=
  .transport "S3 CreateMultipartUpload failed for 'parcel': HTTP 500 Internal Server Error - "

private theorem goes_write_short {pending chunk : ByteArray}
    (short : (pending ++ chunk).size < partSize) :
    (porter.write ⟨parcel, pending, none⟩ chunk).Goes []
      (.ok (), ⟨parcel, pending ++ chunk, none⟩) := by
  have noPart : (pending ++ chunk).size / partSize = 0 := Nat.div_eq_of_lt short
  rw [write, noPart]
  exact Goes.done_iff.mpr ⟨rfl, rfl⟩

private theorem goes_write_refused {pending : ByteArray} (short : pending.size < partSize) :
    (porter.write ⟨parcel, pending, none⟩ zeros).Goes refused
      (.error notBegun, ⟨parcel, behindPart pending, none⟩) := by
  have onePart : (pending ++ zeros).size / partSize = 1 := by
    rw [ByteArray.size_append, size_zeros, Nat.add_div_right _ (by decide),
      Nat.div_eq_of_lt short]
  have starting : (porter.startParts parcel.text).run.Goes refused (.error notBegun) := by
    rw [startParts]
    exact Goes.bind_iff.mpr (.inl ⟨notBegun, goes_send_iff.mpr ⟨refusal, rfl, rfl⟩, rfl⟩)
  have flushing (rest part : ByteArray) : (porter.flushPart ⟨parcel, rest, none⟩ part).Goes
      refused (.error notBegun, ⟨parcel, rest, none⟩) := by
    rw [flushPart]
    exact Goes.andThen_iff.mpr ⟨_, _, [], rfl, starting, Goes.done_iff.mpr ⟨rfl, rfl⟩⟩
  rw [write, onePart, flushParts]
  exact Goes.andThen_iff.mpr ⟨_, _, [], rfl, flushing _ _, Goes.done_iff.mpr ⟨rfl, rfl⟩⟩

private theorem goes_writeAll_two {upload middle after : Upload} {one two : ByteArray}
    {first second : Except RepoError Unit} {early late : Exchanges}
    (writeOne : (porter.write upload one).Goes early (first, middle))
    (writeTwo : (porter.write middle two).Goes late (second, after)) :
    (porter.writeAll upload [one, two]).Goes (early ++ late) ([first, second], after) := by
  have writeRest : (porter.writeAll middle [two]).Goes late ([second], after) :=
    Goes.andThen_iff.mpr ⟨_, late, [], (List.append_nil _).symm, writeTwo,
      Goes.done_iff.mpr ⟨rfl, rfl⟩⟩
  exact Goes.andThen_iff.mpr ⟨_, early, late, rfl, writeOne, Goes.andThen_iff.mpr
    ⟨_, late, [], (List.append_nil _).symm, writeRest, Goes.done_iff.mpr ⟨rfl, rfl⟩⟩⟩

private theorem goes_finish_whole (pending : ByteArray) :
    (porter.finish ⟨parcel, pending, none⟩).run.Goes
      [⟨⟨porter, wholeCommand parcel.text pending⟩, acceptance⟩] (.ok ()) := by
  have sending : (porter.send "PUT" parcel.text (wholeCommand parcel.text pending)).run.Goes
      [⟨⟨porter, wholeCommand parcel.text pending⟩, acceptance⟩] acceptance :=
    goes_send_iff.mpr ⟨acceptance, rfl, rfl⟩
  exact Goes.bind_iff.mpr (.inr ⟨_, _, [], rfl, sending, Goes.pure_iff.mpr ⟨rfl, rfl⟩⟩)

private def oneByte : ByteArray := ⟨#[1]⟩

theorem finish_commits_behind_refusal :
    ∃ early late upload content,
      (porter.writeAll (Upload.begin parcel) [zeros, oneByte]).Goes early
        ([.error notBegun, .ok ()], upload) ∧
      (porter.finish upload).run.Goes late (.ok ()) ∧
      Exchanges.Commit (early ++ late) porter parcel content ∧
      KeepsWritten content (marked [zeros, oneByte] [.error notBegun, .ok ()]) := by
  have short : (behindPart .empty ++ oneByte).size < partSize := by
    have size : (behindPart .empty).size = 0 := by
      rw [behindPart, ByteArray.size_extract, ByteArray.empty_append, size_zeros]
      omega
    rw [ByteArray.size_append, size]
    decide
  have writing : (porter.writeAll (Upload.begin parcel) [zeros, oneByte]).Goes (refused ++ [])
      ([.error notBegun, .ok ()], ⟨parcel, behindPart .empty ++ oneByte, none⟩) :=
    goes_writeAll_two (goes_write_refused (by decide)) (goes_write_short short)
  have finishing := goes_finish_whole (behindPart .empty ++ oneByte)
  have fates : Exchanges.fates (refused ++ []) = [false] := rfl
  rcases finish_commits porter parcel writing finishing with ⟨content, commit, -, -, keeps⟩
  refine ⟨_, _, _, content, writing, finishing, commit, keeps ?_⟩
  have lost : flagged partSize [true] (marked [zeros, oneByte] [.error notBegun, .ok ()]) =
      zeros.data.toList.map fun byte => (byte, false) := by
    have length : (zeros.data.toList.map fun byte => (byte, false)).length = partSize :=
      (List.length_map _).trans size_zeros
    rw [flagged, flagged, marked, if_pos rfl, List.append_nil]
    exact List.take_left' length
  rw [fates, List.map_singleton, Bool.not_false, lost]
  intro byte member
  rcases List.mem_map.mp member with ⟨_, -, rfl⟩
  rfl

/-- What is sent in one piece is what is committed. -/
private theorem eq_of_commit_whole {pending content : ByteArray} {before : Exchanges}
    (commit : Exchanges.Commit
      (before ++ [⟨⟨porter, wholeCommand parcel.text pending⟩, acceptance⟩]) porter parcel content) :
    content = pending := by
  rcases commit with ⟨other, reply, -, same⟩ | ⟨other, uploadId, parts, reply, -, same, -⟩
  · have last := congrArg List.getLast? same
    rw [List.getLast?_concat, List.getLast?_concat] at last
    exact (congrArg (fun asked : (asked : Exchange) × asked.Reply => asked.1.command.body)
      (Option.some.inj last)).symm
  · have last := congrArg List.getLast? same
    rw [List.getLast?_concat, List.getLast?_concat] at last
    cases congrArg (fun asked : (asked : Exchange) × asked.Reply => asked.1.command.method)
      (Option.some.inj last)

/-- A byte whose write succeeded is not in the object that is committed, if it was pending when a
part could not be sent. -/
theorem finish_loses_written :
    ∃ early late upload,
      (porter.writeAll (Upload.begin parcel) [oneByte, zeros]).Goes early
        ([.ok (), .error notBegun], upload) ∧
      (porter.finish upload).run.Goes late (.ok ()) ∧ Exchanges.IsPossible (early ++ late) ∧
      (∃ content, Exchanges.Commit (early ++ late) porter parcel content) ∧
      ∀ content, Exchanges.Commit (early ++ late) porter parcel content →
        ¬KeepsWritten content (marked [oneByte, zeros] [.ok (), .error notBegun]) := by
  have writing : (porter.writeAll (Upload.begin parcel) [oneByte, zeros]).Goes ([] ++ refused)
      ([.ok (), .error notBegun], ⟨parcel, behindPart oneByte, none⟩) := by
    have first : (porter.write (Upload.begin parcel) oneByte).Goes []
        (.ok (), ⟨parcel, .empty ++ oneByte, none⟩) := goes_write_short (by decide)
    rw [ByteArray.empty_append] at first
    exact goes_writeAll_two first (goes_write_refused (by decide))
  have finishing := goes_finish_whole (behindPart oneByte)
  have possible (reply : Except RepoError Http.Response) (isResponse : reply.isOk = true) :
      IsReply reply := by
    intro error same
    rw [same] at isResponse
    cases isResponse
  refine ⟨_, _, _, writing, finishing, ?_, ⟨behindPart oneByte, ?_⟩, ?_⟩
  · exact List.forall_mem_cons.mpr ⟨possible _ rfl, List.forall_mem_singleton.mpr (possible _ rfl)⟩
  · exact .inl ⟨refused, acceptance, ⟨_, rfl, rfl⟩, rfl⟩
  intro content commit
  rw [eq_of_commit_whole commit]
  rintro ⟨left, -, allWritten, bytes⟩
  have written : ((1 : UInt8), true) ∈ left.filter Prod.snd := by
    rw [allWritten, marked]
    refine List.mem_filter.mpr ⟨List.mem_append_left _ ?_, rfl⟩
    exact List.mem_map.mpr ⟨1, List.mem_singleton_self _, rfl⟩
  have present : (1 : UInt8) ∈ (behindPart oneByte).data.toList := by
    rw [bytes]
    exact List.mem_map.mpr ⟨_, (List.mem_filter.mp written).1, rfl⟩
  rw [behindPart_toList (by decide)] at present
  cases (List.mem_replicate.mp present).2

end Client

end Depot.S3
