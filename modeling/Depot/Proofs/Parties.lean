import Mathlib.Data.List.Basic
import Mathlib.Logic.Function.Basic
import Depot.Proofs.Outlines

/-!
Parties that share a state. Each party goes on with a dialogue of its own; a turn answers one
question of one party, and any order of turns is a schedule. If each party has an outline, and the
steps of each are among those that the others reckon with, then outlines are kept by every schedule.
To let parties go on one after another, each to its end, is one of the schedules.
-/

namespace Depot.Dialogue

/-- A shared state, and what is left of the dialogue of each party. -/
structure Parties (Party Question : Type) (Reply : Question → Type) (Result State : Type) where
  state : State
  left : Party → Dialogue Question Reply Result

def isDone {Question : Type} {Reply : Question → Type} {Result : Type} :
    Dialogue Question Reply Result → Bool
  | .done _ => true
  | .ask _ _ => false

namespace Parties

variable {Party Question : Type} {Reply : Question → Type} {Result State : Type} [DecidableEq Party]

/-- Answer the next question of a party, if it has one. -/
def turn (respond : State → (asked : Question) → Reply asked × State)
    (parties : Parties Party Question Reply Result State) (party : Party) :
    Parties Party Question Reply Result State :=
  match parties.left party with
  | .done _ => parties
  | .ask asked next =>
      let (reply, state) := respond parties.state asked
      { state, left := Function.update parties.left party (next reply) }

def play (respond : State → (asked : Question) → Reply asked × State)
    (parties : Parties Party Question Reply Result State) (schedule : List Party) :
    Parties Party Question Reply Result State :=
  schedule.foldl (turn respond) parties

variable {respond : State → (asked : Question) → Reply asked × State}
  {parties : Parties Party Question Reply Result State} {party : Party}

theorem turn_of_done {result : Result} (rest : parties.left party = .done result) :
    parties.turn respond party = parties := by
  rw [turn, rest]

theorem turn_of_ask {asked : Question} {next : Reply asked → Dialogue Question Reply Result}
    (rest : parties.left party = .ask asked next) :
    parties.turn respond party =
      { state := (respond parties.state asked).2
        left := Function.update parties.left party (next (respond parties.state asked).1) } := by
  rw [turn, rest]

@[simp] theorem play_nil : parties.play respond [] = parties := rfl

@[simp] theorem play_cons (schedule : List Party) :
    parties.play respond (party :: schedule) = (parties.turn respond party).play respond schedule :=
  rfl

theorem play_append (before after : List Party) :
    parties.play respond (before ++ after) = (parties.play respond before).play respond after :=
  List.foldl_append

/-! ## Outlines -/

/-- Whether each party has an outline from the shared state on. -/
def Outlined (settings : Party → Setting Question Reply State)
    (ends : Party → Result → State → Prop) (parties : Parties Party Question Reply Result State) :
    Prop :=
  ∀ party, ∃ holds : State → Prop, holds parties.state ∧
    Outline (settings party) holds (parties.left party) (ends party)

variable {settings : Party → Setting Question Reply State} {ends : Party → Result → State → Prop}

/-- A turn takes a step of its party, or none. -/
theorem Outlined.turn (outlined : parties.Outlined settings ends)
    (allows : ∀ party state asked, (settings party).allowed state asked (respond state asked).1
      (respond state asked).2)
    (heard : ∀ {party other before after}, party ≠ other → (settings party).own before after →
      (settings other).others before after)
    (party : Party) :
    (parties.turn respond party).Outlined settings ends ∧
      ((parties.turn respond party).state = parties.state ∨
        (settings party).own parties.state (parties.turn respond party).state) := by
  cases rest : parties.left party with
  | done result =>
      rw [turn_of_done rest]
      exact ⟨outlined, .inl rfl⟩
  | ask asked next =>
      rw [turn_of_ask rest]
      rcases outlined party with ⟨holds, here, outline⟩
      rw [rest] at outline
      cases outline with
      | ask stable step later =>
          rcases step here (allows party parties.state asked) with ⟨own, reached⟩
          refine ⟨?_, .inr own⟩
          intro other
          by_cases same : other = party
          · subst same
            refine ⟨_, reached, ?_⟩
            simp only [Function.update_self]
            exact later _
          · rcases outlined other with ⟨also, there, outline⟩
            refine ⟨also, outline.stable (heard (Ne.symm same) own) there, ?_⟩
            simp only [Function.update_of_ne same]
            exact outline

/-- What no step of a party breaks is kept by every schedule, and so are the outlines. -/
theorem Outlined.play {kept : State → Prop} (outlined : parties.Outlined settings ends)
    (allows : ∀ party state asked, (settings party).allowed state asked (respond state asked).1
      (respond state asked).2)
    (heard : ∀ {party other before after}, party ≠ other → (settings party).own before after →
      (settings other).others before after)
    (keeps : ∀ {party before after}, (settings party).own before after → kept before → kept after)
    (start : kept parties.state) (schedule : List Party) :
    (parties.play respond schedule).Outlined settings ends ∧
      kept (parties.play respond schedule).state := by
  induction schedule generalizing parties with
  | nil => exact ⟨outlined, start⟩
  | cons party schedule induction =>
      rcases outlined.turn allows heard party with ⟨still, step⟩
      apply induction still
      rcases step with same | own
      · rw [same]
        exact start
      · exact keeps own start

omit [DecidableEq Party] in
/-- A party that has come to its end has reached what its outline says. -/
theorem Outlined.ended {result : Result} (outlined : parties.Outlined settings ends)
    (rest : parties.left party = .done result) : ends party result parties.state := by
  rcases outlined party with ⟨holds, here, outline⟩
  rw [rest] at outline
  cases outline with
  | done _ reached => exact reached here

/-! ## One after another -/

/-- A party can go on to its end while the others wait. -/
theorem exists_schedule_to_end (respond : State → (asked : Question) → Reply asked × State)
    (parties : Parties Party Question Reply Result State) (party : Party) :
    ∃ schedule, parties.play respond schedule =
      { state := ((parties.left party).run respond parties.state).2
        left := Function.update parties.left party
          (.done ((parties.left party).run respond parties.state).1) } := by
  induction rest : parties.left party generalizing parties with
  | done result =>
      refine ⟨[], ?_⟩
      rw [play_nil, run_done, ← rest, Function.update_eq_self]
  | ask asked next induction =>
      have next : (parties.turn respond party).left party =
          next (respond parties.state asked).1 := by
        rw [turn_of_ask rest]
        exact Function.update_self ..
      rcases induction _ (parties.turn respond party) next with ⟨schedule, reached⟩
      refine ⟨party :: schedule, ?_⟩
      rw [play_cons, reached, turn_of_ask rest, run_ask, Function.update_idem]

/-- Letting parties go on one after another, each to its end, is a schedule. -/
theorem exists_schedule_in_order (respond : State → (asked : Question) → Reply asked × State)
    (parties : Parties Party Question Reply Result State) {order : List Party}
    (distinct : order.Nodup) :
    ∃ schedule, (parties.play respond schedule).state =
        order.foldl (fun state party => ((parties.left party).run respond state).2) parties.state ∧
      (∀ party ∈ order, ((parties.play respond schedule).left party).isDone = true) ∧
      ∀ party, party ∉ order → (parties.play respond schedule).left party = parties.left party := by
  induction order generalizing parties with
  | nil => exact ⟨[], rfl, by simp, fun _ _ => rfl⟩
  | cons first order induction =>
      rcases List.nodup_cons.mp distinct with ⟨notLater, distinct⟩
      rcases exists_schedule_to_end respond parties first with ⟨start, ended⟩
      rcases induction (parties.play respond start) distinct with ⟨rest, reached, done, others⟩
      have untouched (party : Party) (other : party ≠ first) :
          (parties.play respond start).left party = parties.left party := by
        rw [ended]
        exact Function.update_of_ne other ..
      refine ⟨start ++ rest, ?_, ?_, ?_⟩
      · rw [play_append, reached, List.foldl_cons, ended]
        apply List.foldl_ext
        intro state party later
        have other : party ≠ first := fun same => notLater (same ▸ later)
        simp only [Function.update_of_ne other]
      · rw [play_append]
        intro party member
        rcases List.mem_cons.mp member with rfl | later
        · rw [others party notLater, ended]
          simp only [Function.update_self, isDone]
        · exact done party later
      · rw [play_append]
        intro party notAmong
        rw [List.mem_cons, not_or] at notAmong
        rw [others party notAmong.2, untouched party notAmong.1]

end Parties

end Depot.Dialogue
