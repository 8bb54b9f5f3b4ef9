import Depot.Proofs.Runs

/-!
Proof outlines of dialogues. An outline says what holds before every question of a dialogue, and at
its end. Others may change the state between two questions, so what an outline says must be stable:
no step of theirs breaks it. In return every question of the dialogue itself makes a step of its own
kind, which is what the others reckon with.
-/

namespace Depot.Dialogue

variable {Question : Type} {Reply : Question → Type} {Result Next State Error : Type}

/-- What a dialogue goes on in: which reply a question may get and which state comes next, the steps
that others take between the questions, and the steps that the dialogue may take itself. -/
structure Setting (Question : Type) (Reply : Question → Type) (State : Type) where
  allowed : State → (asked : Question) → Reply asked → State → Prop
  others : State → State → Prop
  own : State → State → Prop

namespace Setting

/-- Whether something that holds cannot be broken by others. -/
def Stable (setting : Setting Question Reply State) (holds : State → Prop) : Prop :=
  ∀ ⦃before after : State⦄, setting.others before after → holds before → holds after

namespace Stable

variable {setting : Setting Question Reply State} {holds also : State → Prop} {fact : Prop}

theorem ofFact (fact : Prop) : setting.Stable fun _ => fact := fun _ _ _ isFact => isFact

theorem and (first : setting.Stable holds) (second : setting.Stable also) :
    setting.Stable fun state => holds state ∧ also state :=
  fun _ _ step both => ⟨first step both.1, second step both.2⟩

theorem given (stays : fact → setting.Stable holds) :
    setting.Stable fun state => fact → holds state :=
  fun _ _ step implied isFact => stays isFact step (implied isFact)

theorem all {Index : Type} {holds : Index → State → Prop}
    (stays : ∀ index, setting.Stable (holds index)) :
    setting.Stable fun state => ∀ index, holds index state :=
  fun _ _ step whole index => stays index step (whole index)

end Stable

/-- A dialogue that has the state for itself. -/
def alone (allowed : State → (asked : Question) → Reply asked → State → Prop) :
    Setting Question Reply State where
  allowed := allowed
  others := fun _ _ => False
  own := fun _ _ => True

theorem Stable.alone {allowed : State → (asked : Question) → Reply asked → State → Prop}
    (holds : State → Prop) : (Setting.alone allowed).Stable holds :=
  fun _ _ never => never.elim

end Setting

/-- Whether a dialogue that starts where something holds can be followed question by question, up to
an end where something holds of its result. -/
inductive Outline (setting : Setting Question Reply State) :
    (State → Prop) → Dialogue Question Reply Result → (Result → State → Prop) → Prop
  | done {holds : State → Prop} {result : Result} {ends : Result → State → Prop}
      (stable : setting.Stable holds) (reached : ∀ {state}, holds state → ends result state) :
      Outline setting holds (.done result) ends
  | ask {holds : State → Prop} {asked : Question}
      {next : Reply asked → Dialogue Question Reply Result} {ends : Result → State → Prop}
      {after : Reply asked → State → Prop} (stable : setting.Stable holds)
      (step : ∀ {before reply middle}, holds before → setting.allowed before asked reply middle →
        setting.own before middle ∧ after reply middle)
      (rest : ∀ reply, Outline setting (after reply) (next reply) ends) :
      Outline setting holds (.ask asked next) ends

namespace Outline

variable {setting : Setting Question Reply State} {holds : State → Prop}
  {dialogue : Dialogue Question Reply Result} {ends : Result → State → Prop}

theorem stable (outline : Outline setting holds dialogue ends) : setting.Stable holds := by
  cases outline <;> assumption

/-! ## Rules -/

theorem strengthen {given : State → Prop} (outline : Outline setting holds dialogue ends)
    (stays : setting.Stable given) (stronger : ∀ {state}, given state → holds state) :
    Outline setting given dialogue ends := by
  cases outline with
  | done _ reached => exact .done stays fun start => reached (stronger start)
  | ask _ step rest => exact .ask stays (fun start => step (stronger start)) rest

theorem weaken {also : Result → State → Prop} (outline : Outline setting holds dialogue ends)
    (weaker : ∀ {result state}, ends result state → also result state) :
    Outline setting holds dialogue also := by
  induction outline with
  | done stays reached => exact .done stays fun start => weaker (reached start)
  | ask stays step _ induction => exact .ask stays step fun reply => induction reply weaker

/-- Where nothing can hold, any dialogue can go on. -/
theorem impossible (dialogue : Dialogue Question Reply Result) :
    Outline setting (fun _ => False) dialogue ends := by
  have stays : setting.Stable fun _ => False := .ofFact False
  induction dialogue with
  | done result => exact .done stays fun never => never.elim
  | ask asked next induction =>
      refine .ask stays ?_ induction
      exact fun never => never.elim

/-- A fact that what holds implies can be used for the rest of an outline. -/
theorem given {fact : Prop} (stays : setting.Stable holds) (implies : ∀ {state}, holds state → fact)
    (outline : fact → Outline setting holds dialogue ends) :
    Outline setting holds dialogue ends := by
  by_cases isFact : fact
  · exact outline isFact
  · exact (impossible dialogue).strengthen stays fun start => isFact (implies start)

theorem andThen {next : Result → Dialogue Question Reply Next} {middle : Result → State → Prop}
    {last : Next → State → Prop} (first : Outline setting holds dialogue middle)
    (second : ∀ result, Outline setting (middle result) (next result) last) :
    Outline setting holds (dialogue.andThen next) last := by
  induction first with
  | done stays reached => exact (second _).strengthen stays reached
  | ask stays step _ induction => exact .ask stays step fun reply => induction reply second

theorem question {asked : Question} {ends : Reply asked → State → Prop}
    (stays : setting.Stable holds) (staysAfter : ∀ reply, setting.Stable (ends reply))
    (step : ∀ {before reply after}, holds before → setting.allowed before asked reply after →
      setting.own before after ∧ ends reply after) :
    Outline setting holds (.ask asked .done) ends :=
  .ask stays step fun reply => .done (staysAfter reply) fun reached => reached

/-- What follows a dialogue that may fail needs an outline only for its values. -/
theorem bind {first : ExceptT Error (Dialogue Question Reply) Result}
    {second : Result → ExceptT Error (Dialogue Question Reply) Next}
    {middle : Result → State → Prop} {ends : Except Error Next → State → Prop}
    (before : Outline setting holds first.run fun
      | .ok value => middle value
      | .error error => ends (.error error))
    (after : ∀ value, Outline setting (middle value) (second value).run ends)
    (failed : ∀ error, setting.Stable (ends (.error error))) :
    Outline setting holds (first >>= second).run ends := by
  rw [run_bind]
  apply before.andThen
  intro result
  cases result with
  | ok value => exact after value
  | error error => exact .done (failed error) fun reached => reached

/-! ## Runs -/

/-- What an outline says of the end holds after every run. -/
theorem run {before after : State} {result : Result}
    (outline : Outline setting holds dialogue ends)
    (run : Run setting.allowed dialogue before result after) (start : holds before) :
    ends result after := by
  induction outline generalizing before with
  | done _ reached =>
      rcases Run.done_iff.mp run with ⟨rfl, rfl⟩
      exact reached start
  | ask _ step _ induction =>
      rcases Run.ask_iff.mp run with ⟨reply, middle, answered, rest⟩
      exact induction reply rest (step start answered).2

end Outline

/-! ## The questions of a dialogue -/

/-- Whether a dialogue asks only questions of some kind, whatever it is told. -/
def Asks (kind : Question → Prop) : Dialogue Question Reply Result → Prop
  | .done _ => True
  | .ask asked next => kind asked ∧ ∀ reply, (next reply).Asks kind

namespace Asks

variable {kind : Question → Prop}

theorem mono {wider : Question → Prop} {dialogue : Dialogue Question Reply Result}
    (asks : dialogue.Asks kind) (widens : ∀ asked, kind asked → wider asked) :
    dialogue.Asks wider := by
  induction dialogue with
  | done result => trivial
  | ask asked next induction =>
      exact ⟨widens asked asks.1, fun reply => induction reply (asks.2 reply)⟩

theorem andThen {first : Dialogue Question Reply Result}
    {second : Result → Dialogue Question Reply Next} (before : first.Asks kind)
    (after : ∀ result, (second result).Asks kind) : (first.andThen second).Asks kind := by
  induction first with
  | done result => exact after result
  | ask asked next induction => exact ⟨before.1, fun reply => induction reply (before.2 reply)⟩

theorem bind {first : ExceptT Error (Dialogue Question Reply) Result}
    {second : Result → ExceptT Error (Dialogue Question Reply) Next} (before : first.run.Asks kind)
    (after : ∀ value, (second value).run.Asks kind) : (first >>= second).run.Asks kind := by
  rw [run_bind]
  apply before.andThen
  intro result
  cases result with
  | ok value => exact after value
  | error error => trivial

theorem liftExcept (value : Except Error Result) :
    (liftM value : ExceptT Error (Dialogue Question Reply) Result).run.Asks kind := by
  cases value <;> trivial

theorem lift {dialogue : Dialogue Question Reply Result} (asks : dialogue.Asks kind) :
    (ExceptT.lift dialogue : ExceptT Error (Dialogue Question Reply) Result).run.Asks kind :=
  asks.andThen fun _ => trivial

/-- A dialogue runs alike where its questions are answered alike. -/
theorem run_of_run {Inner : Type}
    {allowed : State → (asked : Question) → Reply asked → State → Prop}
    {also : Inner → (asked : Question) → Reply asked → Inner → Prop}
    (standsFor : Inner → State → Prop)
    (follows : ∀ {inner before asked reply after}, kind asked → standsFor inner before →
      allowed before asked reply after → ∃ next, also inner asked reply next ∧ standsFor next after)
    {dialogue : Dialogue Question Reply Result} (asks : dialogue.Asks kind) {inner : Inner}
    {before after : State} {result : Result} (stands : standsFor inner before)
    (run : Run allowed dialogue before result after) :
    ∃ next, Run also dialogue inner result next ∧ standsFor next after := by
  induction run generalizing inner with
  | done result state => exact ⟨inner, .done _ _, stands⟩
  | ask answered _ induction =>
      rcases follows asks.1 stands answered with ⟨middle, answer, still⟩
      rcases induction (asks.2 _) still with ⟨next, rest, last⟩
      exact ⟨next, .ask answer rest, last⟩

end Asks

end Depot.Dialogue
