/-!
Programs that ask questions. A dialogue either has a result, or asks one question and goes on with
the reply; every dialogue comes to an end, whatever the replies are. What the questions do is not
part of a dialogue: it is run against a responder, which may keep a state, or each question is
itself answered by a dialogue, over other questions.
-/

namespace Depot

inductive Dialogue (Question : Type) (Reply : Question → Type) (Result : Type) : Type where
  | done (result : Result)
  | ask (question : Question) (next : Reply question → Dialogue Question Reply Result)

namespace Dialogue

variable {Question : Type} {Reply : Question → Type} {Result Next State : Type}

def andThen (first : Dialogue Question Reply Result)
    (second : Result → Dialogue Question Reply Next) : Dialogue Question Reply Next :=
  match first with
  | done result => second result
  | ask question next => ask question fun reply => (next reply).andThen second

instance : Monad (Dialogue Question Reply) where
  pure := done
  bind := andThen

@[simp] theorem pure_eq_done (result : Result) :
    (pure result : Dialogue Question Reply Result) = done result := rfl

@[simp] theorem bind_eq_andThen (first : Dialogue Question Reply Result)
    (second : Result → Dialogue Question Reply Next) :
    first >>= second = first.andThen second := rfl

@[simp] theorem done_andThen (result : Result) (second : Result → Dialogue Question Reply Next) :
    (done result).andThen second = second result := rfl

@[simp] theorem ask_andThen (question : Question)
    (next : Reply question → Dialogue Question Reply Result)
    (second : Result → Dialogue Question Reply Next) :
    (ask question next).andThen second = ask question fun reply => (next reply).andThen second :=
  rfl

theorem andThen_done (dialogue : Dialogue Question Reply Result) :
    dialogue.andThen done = dialogue := by
  induction dialogue with
  | done result => rfl
  | ask asked next induction => simp only [ask_andThen, induction]

theorem andThen_assoc {Last : Type} (first : Dialogue Question Reply Result)
    (second : Result → Dialogue Question Reply Next) (third : Next → Dialogue Question Reply Last) :
    (first.andThen second).andThen third =
      first.andThen fun result => (second result).andThen third := by
  induction first with
  | done result => rfl
  | ask asked next induction => simp only [ask_andThen, induction]

instance : LawfulMonad (Dialogue Question Reply) :=
  LawfulMonad.mk' _ andThen_done (fun _ _ => rfl) andThen_assoc

def question (asked : Question) : Dialogue Question Reply (Reply asked) := ask asked done

/-- Run a dialogue against a responder with a state. -/
def run (respond : State → (asked : Question) → Reply asked × State) :
    Dialogue Question Reply Result → State → Result × State
  | done result, state => (result, state)
  | ask asked next, state =>
      let (reply, state) := respond state asked
      run respond (next reply) state

@[simp] theorem run_done (respond : State → (asked : Question) → Reply asked × State)
    (result : Result) (state : State) :
    (done result : Dialogue Question Reply Result).run respond state = (result, state) := rfl

theorem run_ask (respond : State → (asked : Question) → Reply asked × State)
    (asked : Question) (next : Reply asked → Dialogue Question Reply Result) (state : State) :
    (ask asked next).run respond state =
      (next (respond state asked).1).run respond (respond state asked).2 := rfl

/-- Running two dialogues one after the other hands the state on. -/
theorem run_andThen (respond : State → (asked : Question) → Reply asked × State)
    (first : Dialogue Question Reply Result)
    (second : Result → Dialogue Question Reply Next) (state : State) :
    (first.andThen second).run respond state =
      (second (first.run respond state).1).run respond (first.run respond state).2 := by
  induction first generalizing state with
  | done result => rfl
  | ask asked next induction => simp only [ask_andThen, run_ask, induction]

/-- Answer each question by a dialogue over other questions, handing a state along. -/
def refine {Inner : Type} {InnerReply : Inner → Type}
    (respond : State → (asked : Question) → Dialogue Inner InnerReply (Reply asked × State)) :
    Dialogue Question Reply Result → State → Dialogue Inner InnerReply (Result × State)
  | done result, state => .done (result, state)
  | ask asked next, state =>
      (respond state asked).andThen fun answered => refine respond (next answered.1) answered.2

/-- Run a dialogue in a monad that answers the questions. -/
def perform {Effect : Type → Type} [Monad Effect]
    (answer : (asked : Question) → Effect (Reply asked)) :
    Dialogue Question Reply Result → Effect Result
  | done result => pure result
  | ask asked next => do perform answer (next (← answer asked))

end Dialogue

end Depot
