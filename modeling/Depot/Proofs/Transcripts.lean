import Depot.Proofs.Outlines

/-!
What a dialogue asked and what it was told. A transcript is the list of its questions with their
replies, from the first to the last; any reply may stand in it. What holds of every transcript holds
whatever the other party does and in whatever state it is.
-/

namespace Depot.Dialogue

variable {Question : Type} {Reply : Question → Type} {Result Next State Error : Type}

abbrev Transcript (Question : Type) (Reply : Question → Type) : Type :=
  List ((asked : Question) × Reply asked)

/-- Replies are read off a transcript, of which the state is what is still to come. -/
def Told (before : Transcript Question Reply) (asked : Question) (reply : Reply asked)
    (after : Transcript Question Reply) : Prop :=
  before = ⟨asked, reply⟩ :: after

/-- Whether a dialogue can go this way: it asks the questions of the transcript one after another,
and with these replies it comes to the result. -/
def Goes (dialogue : Dialogue Question Reply Result) (transcript : Transcript Question Reply)
    (result : Result) : Prop :=
  Run Told dialogue transcript result []

namespace Goes

variable {transcript : Transcript Question Reply}

theorem done_iff {value result : Result} :
    (done value : Dialogue Question Reply Result).Goes transcript result ↔
      result = value ∧ transcript = [] := by
  rw [Goes, Run.done_iff]
  exact and_congr_right fun _ => eq_comm

theorem ask_iff {asked : Question} {next : Reply asked → Dialogue Question Reply Result}
    {result : Result} :
    (ask asked next).Goes transcript result ↔
      ∃ reply rest, transcript = ⟨asked, reply⟩ :: rest ∧ (next reply).Goes rest result :=
  Run.ask_iff

/-- A dialogue that leaves something of a transcript has gone by the part before it. -/
theorem told_iff {dialogue : Dialogue Question Reply Result} {result : Result}
    {rest : Transcript Question Reply} :
    Run Told dialogue transcript result rest ↔
      ∃ own, transcript = own ++ rest ∧ dialogue.Goes own result := by
  induction dialogue generalizing transcript with
  | done value =>
      simp only [Run.done_iff, done_iff]
      constructor
      · intro given
        exact ⟨[], given.2.symm, given.1, rfl⟩
      · intro given
        rcases given with ⟨own, rfl, same, rfl⟩
        exact ⟨same, rfl⟩
  | ask asked next induction =>
      simp only [Run.ask_iff, ask_iff, induction]
      constructor
      · intro given
        rcases given with ⟨reply, _, rfl, own, rfl, goes⟩
        exact ⟨⟨asked, reply⟩ :: own, rfl, reply, own, rfl, goes⟩
      · intro given
        rcases given with ⟨_, rfl, reply, own, rfl, goes⟩
        exact ⟨reply, own ++ rest, rfl, own, rfl, goes⟩

/-- The transcript of two dialogues one after the other is one of each. -/
theorem andThen_iff {first : Dialogue Question Reply Result}
    {second : Result → Dialogue Question Reply Next} {result : Next} :
    (first.andThen second).Goes transcript result ↔
      ∃ value early late, transcript = early ++ late ∧ first.Goes early value ∧
        (second value).Goes late result := by
  rw [Goes, Run.andThen_iff]
  simp only [told_iff]
  constructor
  · intro given
    rcases given with ⟨value, late, ⟨early, rfl, first⟩, own, rfl, second⟩
    rw [List.append_nil]
    exact ⟨value, early, own, rfl, first, second⟩
  · intro given
    rcases given with ⟨value, early, late, rfl, first, second⟩
    exact ⟨value, late, ⟨early, rfl, first⟩, late, (List.append_nil late).symm, second⟩

theorem question_iff {asked : Question} {result : Reply asked} :
    (ask asked done : Dialogue Question Reply (Reply asked)).Goes transcript result ↔
      transcript = [⟨asked, result⟩] :=
  Run.question_iff

/-! ## Dialogues that may fail -/

theorem pure_iff {value : Result} {result : Except Error Result} :
    (pure value : ExceptT Error (Dialogue Question Reply) Result).run.Goes transcript result ↔
      result = .ok value ∧ transcript = [] :=
  done_iff

theorem throw_iff {error : Error} {result : Except Error Result} :
    (throw error : ExceptT Error (Dialogue Question Reply) Result).run.Goes transcript result ↔
      result = .error error ∧ transcript = [] :=
  done_iff

/-- Either the first dialogue fails, or the second goes on from its value. -/
theorem bind_iff {first : ExceptT Error (Dialogue Question Reply) Result}
    {second : Result → ExceptT Error (Dialogue Question Reply) Next}
    {result : Except Error Next} :
    (first >>= second).run.Goes transcript result ↔
      (∃ error, first.run.Goes transcript (.error error) ∧ result = .error error) ∨
      ∃ value early late, transcript = early ++ late ∧ first.run.Goes early (.ok value) ∧
        (second value).run.Goes late result := by
  rw [run_bind, andThen_iff]
  constructor
  · intro given
    rcases given with ⟨value | value, early, late, rfl, first, second⟩
    · rcases done_iff.mp second with ⟨rfl, rfl⟩
      rw [List.append_nil]
      exact .inl ⟨value, first, rfl⟩
    · exact .inr ⟨value, early, late, rfl, first, second⟩
  · intro given
    rcases given with ⟨error, first, rfl⟩ | ⟨value, early, late, rfl, first, second⟩
    · exact ⟨.error error, transcript, [], (List.append_nil _).symm, first, done_iff.mpr ⟨rfl, rfl⟩⟩
    · exact ⟨.ok value, early, late, rfl, first, second⟩

/-- A value or error that is there already asks nothing. -/
theorem liftExcept_iff {value result : Except Error Result} :
    (liftM value : ExceptT Error (Dialogue Question Reply) Result).run.Goes transcript result ↔
      result = value ∧ transcript = [] := by
  rw [Goes, Run.liftExcept_iff]
  exact and_congr_right fun _ => eq_comm

/-- What follows a value or error that is there already is asked only for a value. -/
theorem bindExcept_iff {value : Except Error Result}
    {second : Result → ExceptT Error (Dialogue Question Reply) Next}
    {result : Except Error Next} :
    ((liftM value : ExceptT Error (Dialogue Question Reply) Result) >>= second).run.Goes transcript
        result ↔
      (∃ error, value = .error error ∧ result = .error error ∧ transcript = []) ∨
      ∃ found, value = .ok found ∧ (second found).run.Goes transcript result := by
  rw [Goes, Run.bindExcept_iff]
  simp only [eq_comm (a := ([] : Transcript Question Reply)), Goes]

/-- A dialogue taken as one that may fail does not fail. -/
theorem lift_iff {dialogue : Dialogue Question Reply Result} {result : Except Error Result} :
    (ExceptT.lift dialogue : ExceptT Error (Dialogue Question Reply) Result).run.Goes transcript
        result ↔ ∃ value, result = .ok value ∧ dialogue.Goes transcript value :=
  Run.lift_iff

/-- A transcript holds only questions of the kind that the dialogue asks. -/
theorem asked {dialogue : Dialogue Question Reply Result} {result : Result} {kind : Question → Prop}
    (goes : dialogue.Goes transcript result) (asks : dialogue.Asks kind) :
    ∀ asked ∈ transcript, kind asked.1 := by
  induction dialogue generalizing transcript with
  | done value =>
      rcases done_iff.mp goes with ⟨-, rfl⟩
      simp
  | ask asked next induction =>
      rcases ask_iff.mp goes with ⟨reply, rest, rfl, goesOn⟩
      exact List.forall_mem_cons.mpr ⟨asks.1, induction reply goesOn (asks.2 reply)⟩

end Goes

/-! ## Transcripts with a responder -/

/-- The transcript of a dialogue with a responder. -/
def transcript (respond : State → (asked : Question) → Reply asked × State) :
    Dialogue Question Reply Result → State → Transcript Question Reply
  | done _, _ => []
  | ask asked next, state =>
      let (reply, state) := respond state asked
      ⟨asked, reply⟩ :: transcript respond (next reply) state

theorem goes_run (respond : State → (asked : Question) → Reply asked × State)
    (dialogue : Dialogue Question Reply Result) (state : State) :
    dialogue.Goes (dialogue.transcript respond state) (dialogue.run respond state).1 := by
  induction dialogue generalizing state with
  | done result => exact Goes.done_iff.mpr ⟨rfl, rfl⟩
  | ask asked next induction => exact Goes.ask_iff.mpr ⟨_, _, rfl, induction _ _⟩

/-- The transcript of two dialogues one after the other is that of each, from where the first one left
the responder. -/
theorem transcript_andThen (respond : State → (asked : Question) → Reply asked × State)
    (first : Dialogue Question Reply Result) (second : Result → Dialogue Question Reply Next)
    (state : State) :
    (first.andThen second).transcript respond state =
      first.transcript respond state ++
        (second (first.run respond state).1).transcript respond (first.run respond state).2 := by
  induction first generalizing state with
  | done result => rfl
  | ask asked next induction =>
      simp only [ask_andThen, transcript, run_ask, induction, List.cons_append]

/-- Two responders that give the same replies, and are not changed by it, cannot be told apart. -/
theorem Asks.alike {Other : Type} {kind : Question → Prop}
    {left : State → (asked : Question) → Reply asked × State}
    {right : Other → (asked : Question) → Reply asked × Other} {state : State} {other : Other}
    {dialogue : Dialogue Question Reply Result} (asks : dialogue.Asks kind)
    (same : ∀ asked, kind asked → ∃ reply, left state asked = (reply, state) ∧
      right other asked = (reply, other)) :
    dialogue.transcript left state = dialogue.transcript right other ∧
      ∃ result, dialogue.run left state = (result, state) ∧
        dialogue.run right other = (result, other) := by
  induction dialogue with
  | done result => exact ⟨rfl, result, rfl, rfl⟩
  | ask asked next induction =>
      rcases same asked asks.1 with ⟨reply, onLeft, onRight⟩
      rcases induction reply (asks.2 reply) with ⟨transcripts, result, leftRun, rightRun⟩
      refine ⟨?_, result, ?_, ?_⟩
      · simp only [transcript, onLeft, onRight, transcripts]
      · rw [run_ask, onLeft, leftRun]
      · rw [run_ask, onRight, rightRun]

end Depot.Dialogue
