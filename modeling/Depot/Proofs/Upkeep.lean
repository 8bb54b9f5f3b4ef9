import Depot.Directory
import Depot.Proofs.Keys
import Depot.Proofs.Outlines

/-!
Making directories, whatever else happens. The walk upwards collects directories without a marker,
up to one that is settled: the root, or one that is stored. The markers are put with the outermost
first, so each is put below a directory that is settled by then. What settled means is left open;
all that counts is that a marker below a settled directory settles its own directory.
-/

namespace Depot.Directory

open Dialogue

/-- What the making of directories relies on. -/
structure Upkeep {State : Type} (setting : Setting Call Call.Reply State) where
  invariant : State → Prop
  /-- Whether the walk may come to a directory. -/
  isNear : ObjectKey → Prop
  /-- Whether a directory may get a marker. -/
  isFree : ObjectKey → Prop
  isSettled : ObjectKey → State → Prop
  /-- Whether a call may fail other than by finding that nothing is there. -/
  canFail : Prop
  stays : setting.Stable invariant
  settledStays : ∀ key, setting.Stable (isSettled key)
  root : ∀ {key state}, key.isRoot = true → isSettled key state
  /-- Looking at a directory finds that it is settled or that it may get a marker. -/
  head : ∀ {key before reply after}, invariant before → isNear key → key.isRoot = false →
    setting.allowed before (.head key) reply after →
    setting.own before after ∧ invariant after ∧
      (∀ found, reply = .ok found → isSettled key after) ∧
      (∀ text, reply = .error (.notFound text) → isFree key) ∧
      ∀ error, reply = .error error → error.isNotFound = true ∨ canFail
  up : ∀ {key above}, isFree key → key.parent? = some above → isNear above
  /-- A marker below a settled directory, or below none, settles its directory. -/
  put : ∀ {key before reply after}, invariant before → isFree key →
    (∀ above, key.parent? = some above → isSettled above before) →
    setting.allowed before (.putMarker key) reply after →
    setting.own before after ∧ invariant after ∧ (reply = .ok () → isSettled key after) ∧
      ∀ error, reply = .error error → canFail

namespace Upkeep

variable {State Result Next : Type} {setting : Setting Call Call.Reply State}
  (upkeep : Upkeep setting)

/-- The invariant at the end of a task, with something more if there is a result. -/
def Ends (reached : Result → State → Prop) : Except RepoError Result → State → Prop
  | .ok value, state => upkeep.invariant state ∧ reached value state
  | .error _, state => upkeep.invariant state ∧ upkeep.canFail

theorem invariant_of_ends {reached : Result → State → Prop} {result : Except RepoError Result}
    {state : State} (ends : upkeep.Ends reached result state) : upkeep.invariant state := by
  cases result with
  | ok => exact ends.1
  | error => exact ends.1

theorem stays_error {reached : Result → State → Prop} (error : RepoError) :
    setting.Stable (upkeep.Ends reached (.error error)) :=
  .and upkeep.stays (.ofFact upkeep.canFail)

theorem bind {first : StoreTask Result} {second : Result → StoreTask Next} {holds : State → Prop}
    {middle : Result → State → Prop} {reached : Next → State → Prop}
    (before : Outline setting holds first.run (upkeep.Ends middle))
    (after : ∀ value, Outline setting (fun state => upkeep.invariant state ∧ middle value state)
      (second value).run (upkeep.Ends reached)) :
    Outline setting holds (first >>= second).run (upkeep.Ends reached) := by
  apply Outline.bind (before.weaken ?_) after
  · exact upkeep.stays_error
  · intro result state reached
    cases result <;> exact reached

/-! ## The walk upwards -/

/-- Whether directories are those on the way from one upwards, to one that is settled. -/
def Climbs (key : ObjectKey) : List ObjectKey → State → Prop
  | [], state => upkeep.isSettled key state
  | first :: found, state => (first = key ∧ upkeep.isFree key) ∧
      match key.parent? with
      | none => found = []
      | some above => Climbs above found state

theorem climbs_stays (key : ObjectKey) (found : List ObjectKey) :
    setting.Stable (upkeep.Climbs key found) := by
  induction found generalizing key with
  | nil => exact upkeep.settledStays key
  | cons first found induction =>
      intro before after step climbs
      rw [Climbs] at climbs ⊢
      refine ⟨climbs.1, ?_⟩
      cases parent : key.parent? with
      | none => simpa [parent] using climbs.2
      | some above =>
          rw [parent] at climbs
          exact induction above step climbs.2

theorem outline_head? {key : ObjectKey} (near : upkeep.isNear key) (notRoot : key.isRoot = false) :
    Outline setting upkeep.invariant (Client.head? key).run (upkeep.Ends fun found state =>
      (found.isSome = true → upkeep.isSettled key state) ∧ (found = none → upkeep.isFree key)) := by
  let answers (reply : Except RepoError ObjectMeta) (state : State) : Prop :=
    upkeep.invariant state ∧ (∀ found, reply = .ok found → upkeep.isSettled key state) ∧
      (∀ text, reply = .error (.notFound text) → upkeep.isFree key) ∧
      ∀ error, reply = .error error → error.isNotFound = true ∨ upkeep.canFail
  have stays (reply : Except RepoError ObjectMeta) : setting.Stable (answers reply) :=
    .and upkeep.stays (.and (.all fun _ => .given fun _ => upkeep.settledStays key) (.ofFact _))
  have asked : Outline setting upkeep.invariant (Client.head key).run answers :=
    .question upkeep.stays stays fun start => upkeep.head start near notRoot
  apply asked.andThen
  intro reply
  cases reply with
  | ok found =>
      exact .done (stays _) fun answered => ⟨answered.1, fun _ => answered.2.1 _ rfl, by simp⟩
  | error error =>
      cases error
      case notFound text =>
        exact .done (stays _) fun answered => ⟨answered.1, by simp, fun _ => answered.2.2.1 _ rfl⟩
      all_goals
        exact .done (stays _) fun answered =>
          ⟨answered.1, (answered.2.2.2 _ rfl).resolve_left Bool.false_ne_true⟩

theorem outline_exists? {key : ObjectKey} (near : upkeep.isNear key)
    (notRoot : key.isRoot = false) :
    Outline setting upkeep.invariant (Client.exists? key).run (upkeep.Ends fun stored state =>
      (stored = true → upkeep.isSettled key state) ∧ (stored = false → upkeep.isFree key)) := by
  apply upkeep.bind (upkeep.outline_head? near notRoot)
  intro found
  apply Outline.done
  · exact .and upkeep.stays (.and (.given fun _ => upkeep.settledStays key) (.ofFact _))
  · intro state reached
    exact ⟨reached.1, reached.2.1, fun absent => reached.2.2 (by simpa using absent)⟩

/-- The walk upwards from a directory that it may come to. -/
theorem outline_unmarked {directory : ObjectKey}
    (near : directory.isRoot = true ∨ upkeep.isNear directory) :
    Outline setting upkeep.invariant (unmarked directory).run
      (upkeep.Ends (upkeep.Climbs directory)) := by
  -- Only where nothing is stored does the walk go on, so what is above is known to be near.
  induction directory using ObjectKey.upwards with
  | step directory induction =>
      rw [unmarked]
      split
      · next isRoot =>
        exact .done upkeep.stays fun start => ⟨start, upkeep.root isRoot⟩
      next notRoot =>
      have isNear := near.resolve_left notRoot
      apply upkeep.bind (upkeep.outline_exists? isNear (by simpa using notRoot))
      intro stored
      have stays : setting.Stable fun state => upkeep.invariant state ∧
          (stored = true → upkeep.isSettled directory state) ∧
            (stored = false → upkeep.isFree directory) :=
        .and upkeep.stays (.and (.given fun _ => upkeep.settledStays directory) (.ofFact _))
      cases stored with
      | true => exact .done stays fun found => ⟨found.1, found.2.1 rfl⟩
      | false =>
          apply Outline.given stays fun found => found.2.2 rfl
          intro isFree
          rw [if_neg Bool.false_ne_true]
          split
          · next noParent =>
            refine .done stays fun found => ⟨found.1, ⟨rfl, isFree⟩, ?_⟩
            rw [noParent]
          · next above parent =>
            have higher := induction above parent (.inr (upkeep.up isFree parent))
            apply upkeep.bind (higher.strengthen stays fun found => found.1)
            intro found
            refine .done (.and upkeep.stays (upkeep.climbs_stays above found)) ?_
            intro state reached
            refine ⟨reached.1, ⟨rfl, isFree⟩, ?_⟩
            rw [parent]
            exact reached.2

/-! ## The markers -/

theorem putMarkers_append (keys more : List ObjectKey) :
    putMarkers (keys ++ more) = putMarkers keys >>= fun _ => putMarkers more := by
  induction keys with
  | nil => rfl
  | cons key keys induction => simp only [List.cons_append, putMarkers, induction, bind_assoc]

/-- A marker below a settled directory. -/
theorem outline_putMarker {key : ObjectKey} (isFree : upkeep.isFree key) :
    Outline setting (fun state => upkeep.invariant state ∧
        ∀ above, key.parent? = some above → upkeep.isSettled above state)
      (putMarkers [key]).run (upkeep.Ends fun _ => upkeep.isSettled key) := by
  have stays : setting.Stable fun state => upkeep.invariant state ∧
      ∀ above, key.parent? = some above → upkeep.isSettled above state :=
    .and upkeep.stays (.all fun above => .given fun _ => upkeep.settledStays above)
  have put : Outline setting (fun state => upkeep.invariant state ∧
        ∀ above, key.parent? = some above → upkeep.isSettled above state)
      (Client.putMarker key).run (upkeep.Ends fun _ => upkeep.isSettled key) := by
    apply Outline.question stays
    · intro reply
      cases reply with
      | ok => exact .and upkeep.stays (upkeep.settledStays key)
      | error error => exact upkeep.stays_error error
    · intro before reply after start answered
      rcases upkeep.put start.1 isFree start.2 answered with ⟨own, kept, settles, fails⟩
      cases reply with
      | ok => exact ⟨own, kept, settles rfl⟩
      | error error => exact ⟨own, kept, fails error rfl⟩
  apply upkeep.bind put
  intro _
  exact .done (.and upkeep.stays (upkeep.settledStays key)) fun reached => reached

/-- Markers for all directories that the walk upwards has collected, the outermost first. -/
theorem outline_putMarkers (key : ObjectKey) (found : List ObjectKey) :
    Outline setting (fun state => upkeep.invariant state ∧ upkeep.Climbs key found state)
      (putMarkers found.reverse).run (upkeep.Ends fun _ => upkeep.isSettled key) := by
  have stays (key : ObjectKey) (found : List ObjectKey) : setting.Stable fun state =>
      upkeep.invariant state ∧ upkeep.Climbs key found state :=
    .and upkeep.stays (upkeep.climbs_stays key found)
  induction found generalizing key with
  | nil => exact .done (stays key []) fun climbs => climbs
  | cons first found induction =>
      apply Outline.given (stays key (first :: found)) fun climbs => climbs.2.1
      rintro ⟨rfl, isFree⟩
      rw [List.reverse_cons, putMarkers_append]
      cases parent : first.parent? with
      | none =>
          apply Outline.given (stays first (first :: found)) fun climbs => by
            simpa [Climbs, parent] using climbs.2
          rintro ⟨-, rfl⟩
          apply (upkeep.outline_putMarker isFree).strengthen (stays first [first])
          intro state climbs
          exact ⟨climbs.1, by simp [parent]⟩
      | some above =>
          -- The markers that come before this one have settled the directory above it.
          apply upkeep.bind ((induction above).strengthen (stays first (first :: found)) ?_)
          · intro _
            apply (upkeep.outline_putMarker isFree).strengthen
              (.and upkeep.stays (upkeep.settledStays above))
            intro state settled
            refine ⟨settled.1, ?_⟩
            rintro _ same
            cases parent.symm.trans same
            exact settled.2
          · intro state climbs
            have higher := climbs.2.2
            rw [parent] at higher
            exact ⟨climbs.1, higher⟩

/-- Making a directory settles it. -/
theorem outline_create {key : ObjectKey}
    (near : key.asDirectory.isRoot = true ∨ upkeep.isNear key.asDirectory) :
    Outline setting upkeep.invariant (create .hierarchical key).run
      (upkeep.Ends fun _ => upkeep.isSettled key.asDirectory) := by
  apply upkeep.bind (upkeep.outline_unmarked near)
  intro found
  exact upkeep.outline_putMarkers key.asDirectory found

end Upkeep

end Depot.Directory
