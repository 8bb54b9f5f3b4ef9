import Depot.Transfer
import Depot.Proofs.Failures
import Depot.Proofs.Reading

/-!
A download passes on all bytes of an object, whatever the sizes of its chunks and of the pieces that
the stream hands out are. If the stream breaks off, the chunk in which it does so is lost; if the
destination takes no more, so is all behind. The destination is shut down in any case.
-/

namespace Depot

namespace Destination

variable {destination : Destination} {bytes : ByteArray}

/-- The destination with more bytes received. -/
def receiving (destination : Destination) (bytes : ByteArray) : Destination :=
  { destination with received := destination.received ++ bytes }

/-- Whether a destination takes so many more bytes. -/
def Takes (destination : Destination) (count : Nat) : Prop :=
  ∀ limit cause, destination.limit = some (limit, cause) →
    count ≤ limit - destination.received.size

theorem outcome_eq_ok_iff {failure : Option IoCause} :
    outcome failure = .ok () ↔ failure = none := by
  cases failure <;> simp [outcome]

theorem outcome_eq_error_iff {failure : Option IoCause} {cause : IoCause} :
    outcome failure = .error cause ↔ failure = some cause := by
  cases failure <;> simp [outcome]

theorem receiving_empty (destination : Destination) :
    destination.receiving .empty = destination := by
  rw [receiving, ByteArray.append_empty]

theorem receiving_receiving (destination : Destination) (first second : ByteArray) :
    (destination.receiving first).receiving second = destination.receiving (first ++ second) := by
  simp only [receiving, ByteArray.append_assoc]

theorem takes_unlimited (count : Nat) : unlimited.Takes count :=
  fun _ _ impossible => nomatch impossible

theorem takes_iff {limit count : Nat} {cause : IoCause}
    (isLimit : destination.limit = some (limit, cause)) :
    destination.Takes count ↔ count ≤ limit - destination.received.size := by
  constructor
  · intro takes
    exact takes limit cause isLimit
  · intro within other otherCause isOther
    cases isLimit.symm.trans isOther
    exact within

/-- A destination takes so many more bytes, or there is a limit before. -/
theorem takes_or (destination : Destination) (count : Nat) :
    destination.Takes count ∨ ∃ limit cause, destination.limit = some (limit, cause) ∧
      limit - destination.received.size < count := by
  rcases isLimit : destination.limit with _ | ⟨limit, cause⟩
  · left
    intro limit cause impossible
    cases isLimit.symm.trans impossible
  · rw [takes_iff isLimit]
    rcases Nat.lt_or_ge (limit - destination.received.size) count with before | within
    · exact .inr ⟨limit, cause, rfl, before⟩
    · exact .inl within

theorem Takes.left {first second : Nat} (takes : destination.Takes (first + second)) :
    destination.Takes first := by
  intro limit cause isLimit
  exact Nat.le_of_add_right_le (takes limit cause isLimit)

/-- What is taken of the rest once a first part was received. -/
theorem Takes.receiving {first second : Nat} (takes : destination.Takes (first + second))
    (size : bytes.size = first) : (destination.receiving bytes).Takes second := by
  intro limit cause isLimit
  have within := takes limit cause isLimit
  rw [Destination.receiving, ByteArray.size_append]
  omega

theorem writeAll_of_takes (takes : destination.Takes bytes.size) :
    destination.writeAll bytes = (.ok (), destination.receiving bytes) := by
  unfold writeAll
  split
  · rfl
  next limit cause isLimit => exact if_pos (takes limit cause isLimit)

theorem writeAll_of_overflow {limit : Nat} {cause : IoCause}
    (isLimit : destination.limit = some (limit, cause))
    (more : limit - destination.received.size < bytes.size) :
    destination.writeAll bytes = (.error cause,
      destination.receiving (bytes.extract 0 (limit - destination.received.size))) := by
  unfold writeAll
  split
  next noLimit => cases isLimit.symm.trans noLimit
  next isSame =>
    cases isLimit.symm.trans isSame
    exact if_neg (Nat.not_le.mpr more)

end Destination

namespace Reader

variable {reader : Reader} {chunkSize : Nat}

theorem extract_upcoming {count fewer : Nat} (within : fewer ≤ count) :
    (reader.upcoming count).extract 0 fewer = reader.upcoming fewer := by
  simp only [upcoming, ByteArray.extract_extract]
  congr 1
  omega

/-- How many bytes of a stream come through if it is read in chunks: all of them, unless the stream
breaks off, since the chunk in which it does so is lost. -/
def delivered (reader : Reader) (chunkSize : Nat) : Nat :=
  match reader.failure with
  | none => reader.remaining
  | some _ => reader.remaining - reader.remaining % max chunkSize 1

/-- How many bytes the next chunk of a stream holds. -/
def chunk (reader : Reader) (chunkSize : Nat) : Nat := min (max chunkSize 1) reader.remaining

theorem chunk_le_remaining (reader : Reader) (chunkSize : Nat) :
    reader.chunk chunkSize ≤ reader.remaining := Nat.min_le_right _ _

theorem delivered_le_remaining (reader : Reader) (chunkSize : Nat) :
    reader.delivered chunkSize ≤ reader.remaining := by
  unfold delivered
  split
  · exact Nat.le_refl _
  · exact Nat.sub_le _ _

theorem delivered_of_no_failure (endsWell : reader.failure = none) (chunkSize : Nat) :
    reader.delivered chunkSize = reader.remaining := by
  rw [delivered, endsWell]

theorem whole_of_delivered {cause : IoCause} (breaks : reader.failure = some cause)
    (something : reader.delivered chunkSize ≠ 0) : max chunkSize 1 ≤ reader.remaining := by
  rw [delivered, breaks] at something
  dsimp only at something
  rcases Nat.lt_or_ge reader.remaining (max chunkSize 1) with short | whole
  · rw [Nat.mod_eq_of_lt short, Nat.sub_self] at something
    exact absurd rfl something
  · exact whole

/-- Unless nothing more comes through, the next chunk does, and then what is behind it. -/
theorem delivered_eq (something : reader.delivered chunkSize ≠ 0) :
    0 < reader.chunk chunkSize ∧ reader.delivered chunkSize =
      reader.chunk chunkSize + (reader.advance (reader.chunk chunkSize)).delivered chunkSize := by
  unfold chunk
  cases failure : reader.failure with
  | none =>
      have failureToo : (reader.advance (min (max chunkSize 1) reader.remaining)).failure = none :=
        failure
      rw [delivered_of_no_failure failure] at something ⊢
      rw [delivered_of_no_failure failureToo, remaining_advance]
      omega
  | some cause =>
      have whole := whole_of_delivered failure something
      rw [delivered, delivered, failure_advance, failure, remaining_advance]
      dsimp only
      have part : reader.remaining % max chunkSize 1 ≤ reader.remaining - max chunkSize 1 := by
        rw [Nat.mod_eq_sub_mod whole]
        exact Nat.mod_le _ _
      rw [Nat.min_eq_left whole, ← Nat.mod_eq_sub_mod whole]
      omega

/-- The next chunk, if it comes through. -/
theorem fill_chunk (something : reader.delivered chunkSize ≠ 0) :
    reader.fill (max chunkSize 1) .empty =
      .ok (reader.upcoming (reader.chunk chunkSize), reader.advance (reader.chunk chunkSize)) := by
  rw [fill_eq, ByteArray.empty_append, ByteArray.empty_append, chunk]
  split
  next whole => rw [Nat.min_eq_left whole]
  next short =>
    rw [Nat.min_eq_right (Nat.le_of_not_le short)]
    cases failure : reader.failure with
    | none => rfl
    | some cause => exact absurd (whole_of_delivered failure something) short

/-- Where nothing more comes through, the stream ends or breaks off. -/
theorem fill_end (nothing : reader.delivered chunkSize = 0) :
    reader.fill (max chunkSize 1) .empty =
      match reader.failure with
      | some cause => .error cause
      | none => .ok (.empty, reader) := by
  have short : ¬max chunkSize 1 ≤ reader.remaining := by
    intro whole
    unfold delivered at nothing
    split at nothing
    · omega
    · have part : reader.remaining % max chunkSize 1 < max chunkSize 1 := Nat.mod_lt _ (by omega)
      omega
  rw [fill_eq, if_neg short]
  cases failure : reader.failure with
  | some cause => rfl
  | none =>
      rw [delivered_of_no_failure failure] at nothing
      rw [nothing, upcoming_zero, ByteArray.empty_append, advance_zero]

end Reader

namespace Transfer

open Memory Dialogue

variable {chunkSize copied left : Nat} {reader : Reader} {destination : Destination}
  {key : ObjectKey} {before after : Watched}

/-- How a copy ends that its destination has taken. -/
def ending (reader : Reader) (destination : Destination) (copied : Nat) : Except IoCause Nat :=
  match reader.failure with
  | some cause => .error cause
  | none => destination.flush.map fun _ => copied

theorem copyAll_end (nothing : reader.delivered chunkSize = 0) :
    copyAll chunkSize reader destination copied (left + 1) =
      (ending reader destination copied, destination) := by
  rw [copyAll, Reader.fill_end nothing, ending]
  cases reader.failure <;> rfl

theorem ending_of_nothing (nothing : reader.delivered chunkSize = 0) :
    ending reader destination (copied + reader.remaining) = ending reader destination copied := by
  unfold ending
  split
  · rfl
  next endsWell =>
    rw [Reader.delivered_of_no_failure endsWell] at nothing
    rw [nothing, Nat.add_zero]

/-- A copy goes on behind a chunk that was taken. -/
theorem copyAll_chunk_of_takes (something : reader.delivered chunkSize ≠ 0)
    (takes : destination.Takes (reader.chunk chunkSize)) :
    copyAll chunkSize reader destination copied (left + 1) =
      copyAll chunkSize (reader.advance (reader.chunk chunkSize))
        (destination.receiving (reader.upcoming (reader.chunk chunkSize)))
        (copied + reader.chunk chunkSize) left := by
  have size := Reader.size_upcoming (reader.chunk_le_remaining chunkSize)
  have nonzero : reader.chunk chunkSize ≠ 0 := Nat.ne_of_gt (Reader.delivered_eq something).1
  rw [← size] at takes
  rw [copyAll, Reader.fill_chunk something]
  simp only [size, nonzero, if_false, Destination.writeAll_of_takes takes]

/-- A copy ends in a chunk that is not taken. -/
theorem copyAll_chunk_of_overflow {limit : Nat} {cause : IoCause}
    (something : reader.delivered chunkSize ≠ 0)
    (isLimit : destination.limit = some (limit, cause))
    (more : limit - destination.received.size < reader.chunk chunkSize) :
    copyAll chunkSize reader destination copied (left + 1) =
      (.error cause,
        destination.receiving (reader.upcoming (limit - destination.received.size))) := by
  have size := Reader.size_upcoming (reader.chunk_le_remaining chunkSize)
  have nonzero : reader.chunk chunkSize ≠ 0 := Nat.ne_of_gt (Reader.delivered_eq something).1
  have moreToo := more
  rw [← size] at moreToo
  rw [copyAll, Reader.fill_chunk something]
  simp only [size, nonzero, if_false, Destination.writeAll_of_overflow isLimit moreToo,
    Reader.extract_upcoming (Nat.le_of_lt more)]

/-- Every chunk leaves fewer bytes, so a copy comes to its end. -/
theorem remaining_chunk_lt (something : reader.delivered chunkSize ≠ 0)
    (enough : reader.remaining < left + 1) :
    (reader.advance (reader.chunk chunkSize)).remaining < left := by
  have positive := (Reader.delivered_eq something).1
  have there := reader.chunk_le_remaining chunkSize
  rw [Reader.remaining_advance]
  omega

/-- A destination that takes all that comes through receives it. -/
theorem copyAll_of_takes (takes : destination.Takes (reader.delivered chunkSize))
    (enough : reader.remaining < left) :
    copyAll chunkSize reader destination copied left =
      (ending reader destination (copied + reader.remaining),
        destination.receiving (reader.upcoming (reader.delivered chunkSize))) := by
  induction left generalizing reader destination copied with
  | zero => exact absurd enough (Nat.not_lt_zero _)
  | succ left induction =>
      by_cases nothing : reader.delivered chunkSize = 0
      · rw [copyAll_end nothing, ending_of_nothing nothing, nothing, Reader.upcoming_zero,
          Destination.receiving_empty]
      have split := (Reader.delivered_eq nothing).2
      have there := reader.chunk_le_remaining chunkSize
      rw [split] at takes
      rw [copyAll_chunk_of_takes nothing takes.left,
        induction (takes.receiving (Reader.size_upcoming there))
          (remaining_chunk_lt nothing enough),
        Destination.receiving_receiving, Reader.upcoming_append, ← split,
        Reader.remaining_advance, Nat.add_assoc, Nat.add_sub_cancel' there]
      rfl

/-- A destination that takes less than comes through receives what it takes. -/
theorem copyAll_of_overflow {limit : Nat} {cause : IoCause}
    (isLimit : destination.limit = some (limit, cause))
    (more : limit - destination.received.size < reader.delivered chunkSize)
    (enough : reader.remaining < left) :
    copyAll chunkSize reader destination copied left =
      (.error cause,
        destination.receiving (reader.upcoming (limit - destination.received.size))) := by
  induction left generalizing reader destination copied with
  | zero => exact absurd enough (Nat.not_lt_zero _)
  | succ left induction =>
      have something : reader.delivered chunkSize ≠ 0 := Nat.ne_of_gt (Nat.zero_lt_of_lt more)
      have split := (Reader.delivered_eq something).2
      have size := Reader.size_upcoming (reader.chunk_le_remaining chunkSize)
      rcases Nat.lt_or_ge (limit - destination.received.size) (reader.chunk chunkSize) with
        here | later
      · exact copyAll_chunk_of_overflow something isLimit here
      · have room : limit -
            (destination.receiving (reader.upcoming (reader.chunk chunkSize))).received.size =
              limit - destination.received.size - reader.chunk chunkSize := by
          rw [Destination.receiving, ByteArray.size_append, size, Nat.sub_add_eq]
        have moreLater : limit -
            (destination.receiving (reader.upcoming (reader.chunk chunkSize))).received.size <
              (reader.advance (reader.chunk chunkSize)).delivered chunkSize := by
          rw [room]
          omega
        have limitLater : (destination.receiving
            (reader.upcoming (reader.chunk chunkSize))).limit = some (limit, cause) := isLimit
        rw [copyAll_chunk_of_takes something ((Destination.takes_iff isLimit).mpr later),
          induction limitLater moreLater (remaining_chunk_lt something enough),
          Destination.receiving_receiving, room, Reader.upcoming_append, Nat.add_sub_cancel' later]

/-- What a destination without a limit receives is all that comes through. -/
theorem copyAll_unlimited (chunkSize : Nat) (reader : Reader) :
    copyAll chunkSize reader .unlimited 0 (reader.remaining + 1) =
      (ending reader .unlimited reader.remaining,
        Destination.unlimited.receiving (reader.upcoming (reader.delivered chunkSize))) := by
  rw [copyAll_of_takes (Destination.takes_unlimited _) (Nat.lt_succ_self _), Nat.zero_add]

/-! ## Downloads -/

/-- What a copy comes to once its destination was shut down: the first of the failures counts. -/
def outcome (key : ObjectKey) (copied : Except IoCause Nat) (closed : Except IoCause Unit) :
    Except RepoError Nat :=
  (do
    let copied ← copied
    closed
    return copied).mapError fun cause => RepoError.inTransfer key.text (.io cause)

/-- What a download comes to once the store has answered. -/
def download (chunkSize : Nat) (key : ObjectKey) (destination : Destination) :
    Except RepoError Reader → Except RepoError Nat × Destination
  | .error error => (.error error, destination.shutdown.2)
  | .ok reader =>
      let (copied, destination) := copyAll chunkSize reader destination 0 (reader.remaining + 1)
      (outcome key copied destination.shutdown.1, destination.shutdown.2)

theorem outOfStore_eq (chunkSize : Nat) (key : ObjectKey) (destination : Destination) :
    outOfStore chunkSize key destination =
      .ask (.openRead key) fun reply => .done (download chunkSize key destination reply) := by
  refine congrArg (Dialogue.ask (Call.openRead key)) ?_
  funext reply
  cases reply <;> rfl

/-- A download in which no call fails gives the bytes of the object. -/
theorem run_outOfStore {object : StoredObject} {result : Except RepoError Nat}
    (stored : before.store.find? key = some object)
    (run : Run Answered (outOfStore chunkSize key .unlimited) before (result, destination) after)
    (noFailure : after.failures = before.failures) :
    after = before ∧ result = .ok object.data.size ∧ destination.received = object.data := by
  rw [outOfStore_eq] at run
  rcases Run.ask_iff.mp run with ⟨opened, middle, answered, rest⟩
  rcases Run.done_iff.mp rest with ⟨same, rfl⟩
  rcases answered.openRead stored with ⟨rfl, pace, rfl⟩ | ⟨error, rfl⟩
  · have whole : ({ Reader.ofBytes object.data with pace } : Reader).upcoming object.data.size =
        object.data := by
      simp [Reader.upcoming, Reader.ofBytes]
    rw [download, copyAll_unlimited] at same
    cases same
    exact ⟨rfl, rfl, ByteArray.empty_append.trans whole⟩
  · exact absurd noFailure (List.cons_ne_self _ _)

/-- Whether a destination takes so many more bytes, and can be flushed and shut down. -/
def TakesWell (destination : Destination) (count : Nat) : Prop :=
  destination.Takes count ∧ destination.flushFailure = none ∧ destination.shutdownFailure = none

/-- Why a copy fails: the stream breaks off, or the destination takes no more, or it takes all and
cannot be flushed, or can be flushed and not be shut down. -/
inductive Fails (reader : Reader) (destination : Destination) (cause : IoCause) : Prop
  | reading (breaks : reader.failure = some cause)
  | writing {limit : Nat} (isLimit : destination.limit = some (limit, cause))
      (more : limit - destination.received.size < reader.remaining)
  | flushing (endsWell : reader.failure = none) (takes : destination.Takes reader.remaining)
      (fails : destination.flushFailure = some cause)
  | closing (endsWell : reader.failure = none) (takes : destination.Takes reader.remaining)
      (flushes : destination.flushFailure = none) (fails : destination.shutdownFailure = some cause)

/-- What the copy of a stream to a destination comes to. -/
structure Copies (key : ObjectKey) (reader : Reader) (destination after : Destination)
    (result : Except RepoError Nat) : Prop where
  closed : after.shutdowns = destination.shutdowns + 1
  received : ∃ count ≤ reader.remaining,
    after.received = destination.received ++ reader.upcoming count
  ok_iff : ∀ count, result = .ok count ↔ reader.failure = none ∧
    TakesWell destination reader.remaining ∧ count = reader.remaining
  whole : ∀ count, result = .ok count →
    after.received = destination.received ++ reader.upcoming reader.remaining
  fails : ∀ error, result = .error error → ∃ cause, error = .transfer key.text (.io cause) ∧
    Fails reader destination cause
  breaks : ∀ cause, reader.failure = some cause → ∃ shown,
    result = .error (.transfer key.text (.io shown)) ∧
      (destination.Takes reader.remaining → shown = cause)

theorem outcome_of_copy_failure (cause : IoCause) (closed : Except IoCause Unit) :
    outcome key (.error cause) closed = .error (.transfer key.text (.io cause)) := rfl

theorem outcome_of_close_failure (count : Nat) (cause : IoCause) :
    outcome key (.ok count) (.error cause) = .error (.transfer key.text (.io cause)) := rfl

theorem outcome_of_success (count : Nat) (done : Unit) :
    outcome key (.ok count) (.ok done) = .ok count := rfl

theorem outcome_eq_ok_iff {copied : Except IoCause Nat} {closed : Except IoCause Unit}
    {count : Nat} :
    outcome key copied closed = .ok count ↔ copied = .ok count ∧ closed = .ok () := by
  rcases copied with cause | copied <;> rcases closed with cause | closed <;>
    simp [outcome_of_copy_failure, outcome_of_close_failure, outcome_of_success]

theorem outcome_eq_error_iff {copied : Except IoCause Nat} {closed : Except IoCause Unit}
    {error : RepoError} :
    outcome key copied closed = .error error ↔
      ∃ cause, error = .transfer key.text (.io cause) ∧
        (copied = .error cause ∨ (∃ count, copied = .ok count) ∧ closed = .error cause) := by
  rcases copied with cause | copied <;> rcases closed with cause | closed <;>
    simp [outcome_of_copy_failure, outcome_of_close_failure, outcome_of_success, eq_comm]

theorem ending_eq_ok_iff {count : Nat} :
    ending reader destination copied = .ok count ↔
      reader.failure = none ∧ destination.flushFailure = none ∧ count = copied := by
  unfold ending Destination.flush
  cases reader.failure <;> cases destination.flushFailure <;>
    simp [Destination.outcome, Except.map, eq_comm]

theorem ending_eq_error_iff {cause : IoCause} :
    ending reader destination copied = .error cause ↔
      reader.failure = some cause ∨
        reader.failure = none ∧ destination.flushFailure = some cause := by
  unfold ending Destination.flush
  cases reader.failure <;> cases destination.flushFailure <;>
    simp [Destination.outcome, Except.map]

theorem copies_of_takes (takes : destination.Takes (reader.delivered chunkSize)) :
    Copies key reader destination (download chunkSize key destination (.ok reader)).2
      (download chunkSize key destination (.ok reader)).1 := by
  have copying : copyAll chunkSize reader destination 0 (reader.remaining + 1) = _ :=
    copyAll_of_takes takes (Nat.lt_succ_self _)
  rw [Nat.zero_add] at copying
  simp only [download, copying]
  have closed : (destination.receiving (reader.upcoming (reader.delivered chunkSize))).shutdown.1 =
      Destination.outcome destination.shutdownFailure := rfl
  have all (endsWell : reader.failure = none) : destination.Takes reader.remaining := by
    rw [← Reader.delivered_of_no_failure endsWell chunkSize]
    exact takes
  constructor
  case closed => rfl
  case received => exact ⟨_, reader.delivered_le_remaining chunkSize, rfl⟩
  case ok_iff =>
    intro count
    rw [outcome_eq_ok_iff, ending_eq_ok_iff, closed, Destination.outcome_eq_ok_iff]
    constructor
    · rintro ⟨⟨endsWell, flushes, isSize⟩, closes⟩
      exact ⟨endsWell, ⟨all endsWell, flushes, closes⟩, isSize⟩
    · rintro ⟨endsWell, ⟨-, flushes, closes⟩, isSize⟩
      exact ⟨⟨endsWell, flushes, isSize⟩, closes⟩
  case whole =>
    intro count success
    rcases ending_eq_ok_iff.mp (outcome_eq_ok_iff.mp success).1 with ⟨endsWell, -, -⟩
    rw [Reader.delivered_of_no_failure endsWell]
    rfl
  case fails =>
    intro error failure
    rcases outcome_eq_error_iff.mp failure with
      ⟨cause, rfl, copyFails | ⟨⟨count, copied⟩, closeFails⟩⟩
    · refine ⟨cause, rfl, ?_⟩
      rcases ending_eq_error_iff.mp copyFails with breaks | ⟨endsWell, flushFails⟩
      · exact .reading breaks
      · exact .flushing endsWell (all endsWell) flushFails
    · rcases ending_eq_ok_iff.mp copied with ⟨endsWell, flushes, -⟩
      rw [closed, Destination.outcome_eq_error_iff] at closeFails
      exact ⟨cause, rfl, .closing endsWell (all endsWell) flushes closeFails⟩
  case breaks =>
    intro cause breaks
    exact ⟨cause, outcome_eq_error_iff.mpr
      ⟨cause, rfl, .inl (ending_eq_error_iff.mpr (.inl breaks))⟩, fun _ => rfl⟩

theorem copies_of_overflow {limit : Nat} {cause : IoCause}
    (isLimit : destination.limit = some (limit, cause))
    (more : limit - destination.received.size < reader.delivered chunkSize) :
    Copies key reader destination (download chunkSize key destination (.ok reader)).2
      (download chunkSize key destination (.ok reader)).1 := by
  have copying : copyAll chunkSize reader destination 0 (reader.remaining + 1) = _ :=
    copyAll_of_overflow isLimit more (Nat.lt_succ_self _)
  have less := Nat.lt_of_lt_of_le more (reader.delivered_le_remaining chunkSize)
  have takesNot : ¬destination.Takes reader.remaining :=
    fun takes => Nat.not_le.mpr less (takes limit cause isLimit)
  simp only [download, copying]
  constructor
  case closed => rfl
  case received => exact ⟨_, Nat.le_of_lt less, rfl⟩
  case ok_iff =>
    intro count
    rw [outcome_eq_ok_iff]
    constructor
    · rintro ⟨impossible, -⟩
      cases impossible
    · rintro ⟨-, ⟨takes, -⟩, -⟩
      exact absurd takes takesNot
  case whole =>
    intro count success
    cases (outcome_eq_ok_iff.mp success).1
  case fails =>
    intro error failure
    rcases outcome_eq_error_iff.mp failure with ⟨shown, rfl, copyFails | ⟨⟨count, impossible⟩, -⟩⟩
    · cases copyFails
      exact ⟨cause, rfl, .writing isLimit less⟩
    · cases impossible
  case breaks =>
    intro _ _
    exact ⟨cause, outcome_eq_error_iff.mpr ⟨cause, rfl, .inl rfl⟩, fun takes =>
      absurd takes takesNot⟩

theorem copies_download (chunkSize : Nat) (key : ObjectKey) (reader : Reader)
    (destination : Destination) :
    Copies key reader destination (download chunkSize key destination (.ok reader)).2
      (download chunkSize key destination (.ok reader)).1 := by
  rcases destination.takes_or (reader.delivered chunkSize) with
    takes | ⟨limit, cause, isLimit, more⟩
  · exact copies_of_takes takes
  · exact copies_of_overflow isLimit more

/-- A download opens the object and asks for nothing else. The destination is shut down once,
whatever comes of it. If the object is not opened, its error is the result and nothing is written.
Else what is written is what the stream hands out, up to some place. The download succeeds exactly
if the stream ends well and the destination takes all of it and can be flushed and shut down; the
result is the number of bytes then, and all of them are written. If the stream breaks off, a part of
the bytes before is written, from the first on, and the error tells the key and has the failure as
its cause, unless the destination fails before. The chunks that are read and the pieces that the
stream hands out may be of any size. -/
theorem outOfStore_copies {State : Type} (chunkSize : Nat) (key : ObjectKey)
    (destination : Destination) (respond : State → (call : Call) → Call.Reply call × State)
    (state : State) :
    ∃ result after,
      (outOfStore chunkSize key destination).run respond state =
        ((result, after), (respond state (.openRead key)).2) ∧
      after.shutdowns = destination.shutdowns + 1 ∧
      (∀ error, (respond state (.openRead key)).1 = .error error →
        result = .error error ∧ after.received = destination.received) ∧
      ∀ reader, (respond state (.openRead key)).1 = .ok reader →
        Copies key reader destination after result := by
  refine ⟨(download chunkSize key destination (respond state (.openRead key)).1).1,
    (download chunkSize key destination (respond state (.openRead key)).1).2, ?run, ?rest⟩
  case run =>
    rw [outOfStore_eq]
    rfl
  case rest =>
    cases (respond state (.openRead key)).1 with
    | error error =>
        refine ⟨rfl, fun other same => ?_, fun reader impossible => nomatch impossible⟩
        cases same
        exact ⟨rfl, rfl⟩
    | ok reader =>
        have copies := copies_download chunkSize key reader destination
        refine ⟨copies.closed, fun error impossible => (nomatch impossible), fun other same => ?_⟩
        cases same
        exact copies

/-! An object of three bytes that comes in pieces of two, and a stream that breaks off behind them.
-/

private def hamper (failure : Option IoCause) : Reader := ⟨.mk #[1, 2, 3], 0, failure, fun _ => 2⟩

private def courier (failure : Option IoCause) (_ : Unit) :
    (call : Call) → Call.Reply call × Unit
  | .openRead _ => (.ok (hamper failure), ())
  | call => (call.refuse (.transport "down"), ())

theorem outOfStore_copies_hamper :
    (∃ after, (outOfStore 0 ⟨"a/f"⟩ .unlimited).run (courier none) () = ((.ok 3, after), ()) ∧
      after.shutdowns = 1 ∧ after.received = .mk #[1, 2, 3]) ∧
    ∃ after, (outOfStore 2 ⟨"a/f"⟩ .unlimited).run (courier (some .earlyEnd)) () =
        ((.error (.transfer "a/f" (.io .earlyEnd)), after), ()) ∧
      after.shutdowns = 1 ∧ ∃ count ≤ 3, after.received = (hamper none).upcoming count := by
  constructor
  · rcases outOfStore_copies 0 ⟨"a/f"⟩ .unlimited (courier none) () with
      ⟨result, after, run, shutdowns, -, opened⟩
    have copies := opened (hamper none) rfl
    have success : result = .ok 3 :=
      (copies.ok_iff 3).mpr ⟨rfl, ⟨Destination.takes_unlimited _, rfl, rfl⟩, rfl⟩
    rw [success] at run
    exact ⟨after, run, shutdowns, copies.whole 3 success⟩
  · rcases outOfStore_copies 2 ⟨"a/f"⟩ .unlimited (courier (some .earlyEnd)) () with
      ⟨result, after, run, shutdowns, -, opened⟩
    have copies := opened (hamper (some .earlyEnd)) rfl
    rcases copies.breaks .earlyEnd rfl with ⟨shown, failure, sameCause⟩
    rw [failure, sameCause (Destination.takes_unlimited _)] at run
    rcases copies.received with ⟨count, within, received⟩
    exact ⟨after, run, shutdowns, count, within, received.trans ByteArray.empty_append⟩

end Transfer

end Depot
