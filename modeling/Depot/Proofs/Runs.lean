import Depot.Dialogue

/-!
Runs of dialogues against a party that may answer in more than one way. `allowed` says which reply a
question may get in a state and which state comes next. What holds after every run holds whatever
the party does; a responder that only does what is allowed makes one of the runs.
-/

namespace Depot.Dialogue

variable {Question : Type} {Reply : Question → Type} {Result Next State Error : Type}

/-- What follows a dialogue that may fail is asked only if it does not. -/
theorem run_bind (first : ExceptT Error (Dialogue Question Reply) Result)
    (second : Result → ExceptT Error (Dialogue Question Reply) Next) :
    (first >>= second).run = first.run.andThen fun
      | .ok value => (second value).run
      | .error error => .done (.error error) := by
  change ExceptT.run (ExceptT.bind first second) = _
  simp only [ExceptT.bind, ExceptT.run, ExceptT.mk, bind_eq_andThen]
  congr 1
  funext value
  cases value <;> rfl

/-- The ways a dialogue can come to its result, and the state it leaves. -/
inductive Run (allowed : State → (asked : Question) → Reply asked → State → Prop) :
    Dialogue Question Reply Result → State → Result → State → Prop
  | done (result : Result) (state : State) : Run allowed (.done result) state result state
  | ask {asked : Question} {next : Reply asked → Dialogue Question Reply Result}
      {before middle after : State} {reply : Reply asked} {result : Result}
      (answered : allowed before asked reply middle)
      (rest : Run allowed (next reply) middle result after) :
      Run allowed (.ask asked next) before result after

namespace Run

variable {allowed : State → (asked : Question) → Reply asked → State → Prop}
  {before after : State}

theorem done_iff {value result : Result} :
    Run allowed (.done value) before result after ↔ result = value ∧ after = before := by
  constructor
  · intro run
    cases run
    exact ⟨rfl, rfl⟩
  · intro given
    rcases given with ⟨rfl, rfl⟩
    exact .done _ _

theorem ask_iff {asked : Question} {next : Reply asked → Dialogue Question Reply Result}
    {result : Result} :
    Run allowed (.ask asked next) before result after ↔
      ∃ reply middle, allowed before asked reply middle ∧
        Run allowed (next reply) middle result after := by
  constructor
  · intro run
    cases run with
    | ask answered rest => exact ⟨_, _, answered, rest⟩
  · intro given
    rcases given with ⟨reply, middle, answered, rest⟩
    exact .ask answered rest

/-- A run of two dialogues one after the other is a run of each. -/
theorem andThen_iff {first : Dialogue Question Reply Result}
    {second : Result → Dialogue Question Reply Next} {result : Next} :
    Run allowed (first.andThen second) before result after ↔
      ∃ value middle, Run allowed first before value middle ∧
        Run allowed (second value) middle result after := by
  induction first generalizing before with
  | done value =>
      constructor
      · intro run
        exact ⟨value, before, .done _ _, run⟩
      · intro given
        rcases given with ⟨found, middle, first, second⟩
        rcases done_iff.mp first with ⟨rfl, rfl⟩
        exact second
  | ask asked next induction =>
      simp only [ask_andThen, ask_iff, induction]
      constructor
      · intro given
        rcases given with ⟨reply, between, answered, value, middle, first, second⟩
        exact ⟨value, middle, ⟨reply, between, answered, first⟩, second⟩
      · intro given
        rcases given with ⟨value, middle, ⟨reply, between, answered, first⟩, second⟩
        exact ⟨reply, between, answered, value, middle, first, second⟩

/-- A single question ends with its reply. -/
theorem question_iff {asked : Question} {result : Reply asked} :
    Run allowed (.ask asked .done) before result after ↔ allowed before asked result after := by
  simp only [ask_iff, done_iff]
  constructor
  · intro given
    rcases given with ⟨reply, middle, answered, rfl, rfl⟩
    exact answered
  · intro answered
    exact ⟨result, after, answered, rfl, rfl⟩

/-! ## Dialogues that may fail -/

theorem pure_iff {value : Result} {result : Except Error Result} :
    Run allowed (pure value : ExceptT Error (Dialogue Question Reply) Result).run before result
      after ↔ result = .ok value ∧ after = before :=
  done_iff

theorem throw_iff {error : Error} {result : Except Error Result} :
    Run allowed (throw error : ExceptT Error (Dialogue Question Reply) Result).run before result
      after ↔ result = .error error ∧ after = before :=
  done_iff

/-- Either the first dialogue fails, or the second goes on from its value. -/
theorem bind_iff {first : ExceptT Error (Dialogue Question Reply) Result}
    {second : Result → ExceptT Error (Dialogue Question Reply) Next}
    {result : Except Error Next} :
    Run allowed (first >>= second).run before result after ↔
      (∃ error, Run allowed first.run before (.error error) after ∧ result = .error error) ∨
      ∃ value middle, Run allowed first.run before (.ok value) middle ∧
        Run allowed (second value).run middle result after := by
  rw [run_bind, andThen_iff]
  constructor
  · intro given
    rcases given with ⟨value | value, middle, first, second⟩
    · rcases done_iff.mp second with ⟨rfl, rfl⟩
      exact .inl ⟨value, first, rfl⟩
    · exact .inr ⟨value, middle, first, second⟩
  · intro given
    rcases given with ⟨error, first, rfl⟩ | ⟨value, middle, first, second⟩
    · exact ⟨.error error, after, first, .done _ _⟩
    · exact ⟨.ok value, middle, first, second⟩

/-- A value or error that is there already asks nothing. -/
theorem liftExcept_iff {value result : Except Error Result} :
    Run allowed (liftM value : ExceptT Error (Dialogue Question Reply) Result).run before result
      after ↔ result = value ∧ after = before := by
  cases value <;> exact done_iff

/-- What follows a value or error that is there already is asked only for a value. -/
theorem bindExcept_iff {value : Except Error Result}
    {second : Result → ExceptT Error (Dialogue Question Reply) Next}
    {result : Except Error Next} :
    Run allowed ((liftM value : ExceptT Error (Dialogue Question Reply) Result) >>= second).run
        before result after ↔
      (∃ error, value = .error error ∧ result = .error error ∧ after = before) ∨
      ∃ found, value = .ok found ∧ Run allowed (second found).run before result after := by
  cases value with
  | ok found =>
      constructor
      · intro run
        exact .inr ⟨found, rfl, run⟩
      · intro given
        rcases given with ⟨_, same, -⟩ | ⟨_, same, run⟩
        · cases same
        · cases same
          exact run
  | error error =>
      constructor
      · intro run
        exact .inl ⟨error, rfl, throw_iff.mp run⟩
      · intro given
        rcases given with ⟨_, same, ended⟩ | ⟨_, same, -⟩
        · cases same
          exact throw_iff.mpr ended
        · cases same

/-- A dialogue taken as one that may fail does not fail. -/
theorem lift_iff {dialogue : Dialogue Question Reply Result} {result : Except Error Result} :
    Run allowed (ExceptT.lift dialogue : ExceptT Error (Dialogue Question Reply) Result).run before
      result after ↔ ∃ value, result = .ok value ∧ Run allowed dialogue before value after := by
  constructor
  · intro run
    rcases andThen_iff.mp run with ⟨value, middle, run, ending⟩
    rcases done_iff.mp ending with ⟨rfl, rfl⟩
    exact ⟨value, rfl, run⟩
  · intro given
    rcases given with ⟨value, rfl, run⟩
    exact andThen_iff.mpr ⟨value, after, run, .done _ _⟩

/-! ## Runs with a responder -/

/-- A responder that does only what is allowed makes a run. Its own state need only stand for the
state that the runs are about. -/
theorem exists_of_responder {Inner : Type}
    {respond : Inner → (asked : Question) → Reply asked × Inner}
    (standsFor : Inner → State → Prop)
    (keeps : ∀ inner state asked, standsFor inner state →
      ∃ next, allowed state asked (respond inner asked).1 next ∧
        standsFor (respond inner asked).2 next)
    (dialogue : Dialogue Question Reply Result) {inner : Inner} {state : State}
    (stands : standsFor inner state) :
    ∃ after, Run allowed dialogue state (dialogue.run respond inner).1 after ∧
      standsFor (dialogue.run respond inner).2 after := by
  induction dialogue generalizing inner state with
  | done result => exact ⟨state, .done _ _, stands⟩
  | ask asked next induction =>
      rcases keeps inner state asked stands with ⟨middle, answered, still⟩
      rcases induction _ still with ⟨after, rest, last⟩
      rw [run_ask]
      exact ⟨after, .ask answered rest, last⟩

end Run

/-! ## Runs with their questions -/

/-- What is allowed, with the questions written down, the latest last. -/
def Noting (allowed : State → (asked : Question) → Reply asked → State → Prop)
    (before : State × List Question) (asked : Question) (reply : Reply asked)
    (after : State × List Question) : Prop :=
  allowed before.1 asked reply after.1 ∧ after.2 = before.2 ++ [asked]

namespace Run

variable {allowed : State → (asked : Question) → Reply asked → State → Prop}

theorem of_noting {dialogue : Dialogue Question Reply Result} {result : Result}
    {before after : State × List Question}
    (run : Run (Noting allowed) dialogue before result after) :
    Run allowed dialogue before.1 result after.1 := by
  induction run with
  | done result state => exact .done result state.1
  | ask answered _ induction => exact .ask answered.1 induction

/-- Any run can be written down. -/
theorem exists_noting {dialogue : Dialogue Question Reply Result} {result : Result}
    {before after : State} (run : Run allowed dialogue before result after)
    (notes : List Question) :
    ∃ later, Run (Noting allowed) dialogue (before, notes) result (after, later) := by
  induction run generalizing notes with
  | done result state => exact ⟨notes, .done result _⟩
  | @ask asked _ _ middle _ _ _ answered _ induction =>
      rcases induction (notes ++ [asked]) with ⟨later, rest⟩
      exact ⟨later, .ask ⟨answered, rfl⟩ rest⟩

end Run

end Depot.Dialogue
