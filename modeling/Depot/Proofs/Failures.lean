import Depot.Client.Faults
import Depot.Memory.Client
import Depot.Proofs.Runs

/-!
A store in memory behind a client whose calls may fail at any time. A call that fails does not reach
the store, and a failure never claims that a key is missing when its metadata are asked for. The
errors of the failed calls are kept, so that a statement can say what follows if there were none.
Each call has one lemma that says everything that can happen at it.
-/

namespace Depot.Memory

/-- A store, and the errors of the calls that have failed, the latest first. -/
structure Watched where
  store : Store
  failures : List RepoError

namespace Watched

/-- The same store after one more failure. -/
def failing (watched : Watched) (error : RepoError) : Watched :=
  { watched with failures := error :: watched.failures }

@[simp] theorem store_failing (watched : Watched) (error : RepoError) :
    (watched.failing error).store = watched.store := rfl

@[simp] theorem failures_failing (watched : Watched) (error : RepoError) :
    (watched.failing error).failures = error :: watched.failures := rfl

/-- A store that no call has failed for. -/
def fresh (store : Store) : Watched := ⟨store, []⟩

end Watched

/-- What can happen at a call: the store serves it, or it fails. A stream that is opened hands out
the bytes of the object at any pace, or breaks off behind some of them. -/
inductive Answered : Watched → (call : Call) → Call.Reply call → Watched → Prop
  | served (watched : Watched) (call : Call) :
      Answered watched call (watched.store.respond call).1
        { watched with store := (watched.store.respond call).2 }
  | streamed (watched : Watched) (key : ObjectKey) (object : StoredObject) (pace : Nat → Nat)
      (stored : watched.store.find? key = some object) :
      Answered watched (.openRead key) (.ok { Reader.ofBytes object.data with pace }) watched
  | broken (watched : Watched) (key : ObjectKey) (object : StoredObject) (pace : Nat → Nat)
      (count : Nat) (cause : IoCause) (stored : watched.store.find? key = some object) :
      Answered watched (.openRead key)
        (.ok (Reader.failingAfter { Reader.ofBytes object.data with pace } count cause))
        (watched.failing (.io cause))
  | refused {watched : Watched} {call : Call} (error : RepoError)
      (canFail : call.kind ≠ .abort) (plain : call.kind = .head → error.isNotFound = false) :
      Answered watched call (call.refuse error) (watched.failing error)

namespace Answered

variable {before after : Watched}

/-! ## Each call -/

theorem head {key : ObjectKey} {reply : Except RepoError ObjectMeta}
    (answered : Answered before (.head key) reply after) :
    (after = before ∧ reply = (before.store.look key).map fun object =>
        { key, size := object.data.size, isDirectory := object.isDirectory }) ∨
      ∃ error, error.isNotFound = false ∧ reply = .error error ∧ after = before.failing error := by
  cases answered with
  | served => exact .inl ⟨rfl, rfl⟩
  | refused error _ plain => exact .inr ⟨error, plain rfl, rfl, rfl⟩

/-- An object is opened for reading as a whole, unless a call fails then or later. -/
theorem openRead {key : ObjectKey} {object : StoredObject} {reply : Except RepoError Reader}
    (answered : Answered before (.openRead key) reply after)
    (stored : before.store.find? key = some object) :
    (after = before ∧ ∃ pace, reply = .ok { Reader.ofBytes object.data with pace }) ∨
      ∃ error, after = before.failing error := by
  cases answered with
  | served =>
      refine .inl ⟨rfl, (Reader.ofBytes object.data).pace, ?_⟩
      simp [Store.respond, Store.look, stored, Except.map]
  | streamed key found pace isFound =>
      rw [stored] at isFound
      cases isFound
      exact .inl ⟨rfl, pace, rfl⟩
  | broken key found pace count cause isFound => exact .inr ⟨.io cause, rfl⟩
  | refused error => exact .inr ⟨error, rfl⟩

theorem putMarker {key : ObjectKey} {reply : Except RepoError Unit}
    (answered : Answered before (.putMarker key) reply after) :
    (reply = .ok () ∧ after = { before with store := before.store.put key .marker }) ∨
      ∃ error, reply = .error error ∧ after = before.failing error := by
  cases answered with
  | served => exact .inl ⟨rfl, rfl⟩
  | refused error => exact .inr ⟨error, rfl, rfl⟩

theorem write {upload : Upload} {chunk : ByteArray} {reply : Except RepoError Unit × Upload}
    (answered : Answered before (.write upload chunk) reply after) :
    (after = before ∧ reply = (.ok (), { upload with pending := upload.pending ++ chunk })) ∨
      ∃ error, reply = (.error error, upload) ∧ after = before.failing error := by
  cases answered with
  | served => exact .inl ⟨rfl, rfl⟩
  | refused error => exact .inr ⟨error, rfl, rfl⟩

theorem abort {upload : Upload} {reply : Unit}
    (answered : Answered before (.abort upload) reply after) :
    after = before := by
  cases answered with
  | served => rfl
  | refused _ canFail => exact (canFail rfl).elim

end Answered

/-! ## Tasks of a single call -/

/-- Whether a task ends with a known result and state, unless its call fails. -/
def Yields {Result : Type} (task : StoreTask Result) (before : Watched)
    (value : Except RepoError Result) (next : Watched) : Prop :=
  ∀ result after, Dialogue.Run Answered task.run before result after →
    (result = value ∧ after = next) ∨ ∃ error, result = .error error ∧ after = before.failing error

namespace Yields

open Dialogue

variable {Result Next : Type} {before next after : Watched}

/-- What comes after a task goes on from its value, or the whole fails with its call. -/
theorem bind {first : StoreTask Result} {second : Result → StoreTask Next} {value : Result}
    {result : Except RepoError Next} (yields : Yields first before (.ok value) next)
    (run : Run Answered (first >>= second).run before result after) :
    Run Answered (second value).run next result after ∨
      ∃ error, result = .error error ∧ after = before.failing error := by
  rcases Run.bind_iff.mp run with ⟨error, asked, rfl⟩ | ⟨found, middle, asked, rest⟩
  · rcases yields _ _ asked with ⟨same, -⟩ | ⟨other, same, failing⟩
    · cases same
    · cases same
      exact .inr ⟨error, rfl, failing⟩
  · rcases yields _ _ asked with ⟨same, rfl⟩ | ⟨error, same, -⟩
    · cases same
      exact .inl rest
    · cases same

theorem ofPure (value : Result) : Yields (pure value) before (.ok value) before :=
  fun _ _ run => .inl (Run.pure_iff.mp run)

theorem ofThrow (error : RepoError) :
    Yields (throw error : StoreTask Result) before (.error error) before :=
  fun _ _ run => .inl (Run.throw_iff.mp run)

theorem ofExcept (value : Except RepoError Result) : Yields (liftM value) before value before :=
  fun _ _ run => .inl (Run.liftExcept_iff.mp run)

/-- What comes after a task that changes nothing. -/
theorem reading {first : StoreTask Result} {second : Result → StoreTask Next} {value : Result}
    {found : Except RepoError Next} (read : Yields first before (.ok value) before)
    (rest : Yields (second value) before found next) :
    Yields (first >>= second) before found next := by
  intro result after run
  rcases read.bind run with rest' | failed
  · exact rest _ _ rest'
  · exact .inr failed

/-- Nothing comes after a task that ends with an error. -/
theorem stopping {first : StoreTask Result} {second : Result → StoreTask Next} {error : RepoError}
    (stops : Yields first before (.error error) next) :
    Yields (first >>= second) before (.error error) next := by
  intro result after run
  rcases Run.bind_iff.mp run with ⟨found, asked, rfl⟩ | ⟨value, middle, asked, -⟩
  · rcases stops _ _ asked with ⟨same, ended⟩ | ⟨other, same, failing⟩
    · cases same
      exact .inl ⟨rfl, ended⟩
    · cases same
      exact .inr ⟨found, rfl, failing⟩
  · rcases stops _ _ asked with ⟨same, -⟩ | ⟨other, same, -⟩
    · cases same
    · cases same

theorem openWrite (key : ObjectKey) :
    Yields (Client.openWrite key) before (.ok (Upload.begin key)) before := by
  intro result after run
  cases Run.question_iff.mp run with
  | served => exact .inl ⟨rfl, rfl⟩
  | refused error => exact .inr ⟨error, rfl, rfl⟩

theorem deleteMany (keys : KeySet) :
    Yields (Client.deleteMany keys) before (before.store.respond (.deleteMany keys)).1
      { before with store := before.store.eraseAll keys.toKeys } := by
  intro result after run
  cases Run.question_iff.mp run with
  | served => exact .inl ⟨rfl, rfl⟩
  | refused error => exact .inr ⟨error, rfl, rfl⟩

theorem listPage (lead : String) (delimiter token : Option String) :
    Yields (Client.listPage lead delimiter token) before
      (.ok (before.store.listPage lead delimiter token)) before := by
  intro result after run
  cases Run.question_iff.mp run with
  | served => exact .inl ⟨rfl, rfl⟩
  | refused error => exact .inr ⟨error, rfl, rfl⟩

theorem finish (upload : Upload) :
    Yields (Client.finish upload) before (.ok ())
      { before with store := before.store.insert upload.key upload.pending } := by
  intro result after run
  cases Run.question_iff.mp run with
  | served => exact .inl ⟨rfl, rfl⟩
  | refused error => exact .inr ⟨error, rfl, rfl⟩

theorem head (key : ObjectKey) :
    Yields (Client.head key) before ((before.store.look key).map fun object =>
      { key, size := object.data.size, isDirectory := object.isDirectory }) before := by
  intro result after run
  rcases (Run.question_iff.mp run).head with ⟨rfl, rfl⟩ | ⟨error, -, rfl, rfl⟩
  · exact .inl ⟨rfl, rfl⟩
  · exact .inr ⟨error, rfl, rfl⟩

theorem headLength {key : ObjectKey} {object : StoredObject}
    (stored : before.store.find? key = some object) (isFile : object.isDirectory = false) :
    Yields (Client.headLength key) before (.ok object.data.size) before := by
  have found : Yields (Client.head key) before _ before := head key
  rw [Store.look, stored] at found
  apply found.reading
  simp only [isFile, Bool.false_eq_true, if_false]
  exact ofPure _

/-- The metadata at a key. That nothing is there is an answer, and no failure says so. -/
theorem head? (key : ObjectKey) :
    Yields (Client.head? key) before (.ok ((before.store.find? key).map fun object =>
      { key, size := object.data.size, isDirectory := object.isDirectory })) before := by
  intro result after run
  rcases Run.andThen_iff.mp run with ⟨reply, middle, asked, rest⟩
  rcases (Run.question_iff.mp asked).head with ⟨rfl, rfl⟩ | ⟨error, plain, rfl, rfl⟩
  · cases stored : middle.store.find? key with
    | none =>
        simp only [Store.look, stored, Except.map] at rest
        exact .inl (Run.done_iff.mp rest)
    | some object =>
        simp only [Store.look, stored, Except.map] at rest
        exact .inl (Run.done_iff.mp rest)
  · refine .inr ⟨error, ?_⟩
    cases error
    case notFound => simp [RepoError.isNotFound] at plain
    all_goals exact Run.done_iff.mp rest

theorem exists? (key : ObjectKey) :
    Yields (Client.exists? key) before (.ok (before.store.find? key).isSome) before := by
  intro result after run
  rcases (head? key).bind run with found | failed
  · rcases Run.pure_iff.mp found with ⟨rfl, rfl⟩
    exact .inl ⟨by simp, rfl⟩
  · exact .inr failed

end Yields

/-! ## Planned failures -/

/-- Whether a plan keeps to failures that do not claim that a key is missing. -/
def IsPlain (plan : List Fault) : Prop :=
  ∀ fault ∈ plan, fault.kind = .head → fault.error.isNotFound = false

/-- Looking for a fault that fires only counts: the fault is of the kind that was looked for, and
kinds and errors in the plan stay. -/
theorem isPlain_firing (kind : CallKind) (subject : String) {plan : List Fault}
    (plain : IsPlain plan) :
    IsPlain (Fault.firing kind subject plan).2 ∧
      ∀ fault, (Fault.firing kind subject plan).1 = some fault →
        kind = .head → fault.error.isNotFound = false := by
  induction plan with
  | nil => exact ⟨plain, by simp [Fault.firing]⟩
  | cons fault plan induction =>
      have here := plain fault List.mem_cons_self
      have later : IsPlain plan := fun other member => plain other (List.mem_cons_of_mem _ member)
      rcases induction later with ⟨kept, fired⟩
      by_cases matched : fault.applies kind subject
      · have sameKind : fault.kind = kind := by
          simp only [Fault.applies, Bool.and_eq_true, beq_iff_eq] at matched
          exact matched.1
        by_cases fires : ({ fault with matched := fault.matched + 1 } : Fault).fires
        · simp only [Fault.firing, matched, fires, if_true]
          refine ⟨List.forall_mem_cons.mpr ⟨here, later⟩, ?_⟩
          intro _ same isHead
          cases same
          exact here (sameKind.trans isHead)
        · simp only [Fault.firing, matched, fires, if_true]
          exact ⟨List.forall_mem_cons.mpr ⟨here, kept⟩, fired⟩
      · simp only [Fault.firing, matched]
        exact ⟨List.forall_mem_cons.mpr ⟨here, kept⟩, fired⟩

/-- Behind a plan of plain failures, a store in memory does only what can happen at a call. -/
theorem answered_interpose {plan : List Fault} (plain : IsPlain plan) (watched : Watched)
    (call : Call) :
    ∃ next, Answered watched call (Fault.interpose Store.respond (plan, watched.store) call).1 next ∧
      next.store = (Fault.interpose Store.respond (plan, watched.store) call).2.2 ∧
      IsPlain (Fault.interpose Store.respond (plan, watched.store) call).2.1 := by
  rcases isPlain_firing call.kind call.subject plain with ⟨kept, fired⟩
  rw [Fault.interpose]
  cases found : Fault.firing call.kind call.subject plan with
  | mk fault? plan =>
      rw [found] at kept fired
      cases fault? with
      | some fault =>
          by_cases aborting : call.kind = .abort
          · cases call <;> simp_all [Call.kind]
            exact ⟨_, .served _ _, rfl⟩
          · exact ⟨_, .refused fault.error aborting (fired fault rfl), rfl, kept⟩
      | none =>
          simp only
          cases call with
          | openRead key =>
              rcases isPlain_firing .read key.text kept with ⟨keptReading, -⟩
              cases stored : watched.store.find? key with
              | none =>
                  have missing : watched.store.respond (.openRead key) =
                      (.error (.notFound key.text), watched.store) := by
                    simp [Store.respond, Store.look, stored, Except.map]
                  have answered := Answered.served watched (.openRead key)
                  rw [missing] at answered ⊢
                  exact ⟨watched, answered, rfl, kept⟩
              | some object =>
                  have opened : watched.store.respond (.openRead key) =
                      (.ok (Reader.ofBytes object.data), watched.store) := by
                    simp [Store.respond, Store.look, stored, Except.map]
                  rw [opened]
                  simp only [Fault.spoil]
                  cases reading : Fault.firing .read key.text plan with
                  | mk fault? plan =>
                      rw [reading] at keptReading
                      cases fault? with
                      | some fault => exact ⟨_, .broken _ _ object _ _ _ stored, rfl, keptReading⟩
                      | none => exact ⟨_, .streamed _ _ object _ stored, rfl, keptReading⟩
          | _ => exact ⟨_, .served _ _, rfl, kept⟩

/-- Running a dialogue on a store behind a plan of plain failures makes one of the runs. -/
theorem run_of_interpose {Result : Type} {plan : List Fault} (plain : IsPlain plan)
    (dialogue : StoreDialogue Result) (store : Store) :
    ∃ after, Dialogue.Run Answered dialogue (.fresh store)
        (dialogue.run (Fault.interpose Store.respond) (plan, store)).1 after ∧
      after.store = (dialogue.run (Fault.interpose Store.respond) (plan, store)).2.2 := by
  let standsFor (inner : List Fault × Store) (watched : Watched) : Prop :=
    watched.store = inner.2 ∧ IsPlain inner.1
  have keeps : ∀ inner watched call, standsFor inner watched →
      ∃ next, Answered watched call (Fault.interpose Store.respond inner call).1 next ∧
        standsFor (Fault.interpose Store.respond inner call).2 next := by
    intro inner watched call stands
    rcases inner with ⟨plan, store⟩
    rcases stands with ⟨rfl, plain⟩
    exact answered_interpose plain watched call
  have stands : standsFor (plan, store) (.fresh store) := ⟨rfl, plain⟩
  rcases Dialogue.Run.exists_of_responder standsFor keeps dialogue stands with
    ⟨after, run, sameStore, -⟩
  exact ⟨after, run, sameStore⟩

/-- Running a dialogue on the store itself makes a run in which no call fails. -/
theorem run_of_store {Result : Type} (dialogue : StoreDialogue Result) (watched : Watched) :
    Dialogue.Run Answered dialogue watched (watched.store.run dialogue).1
      { watched with store := (watched.store.run dialogue).2 } := by
  let standsFor (store : Store) (other : Watched) : Prop :=
    other = { watched with store := store }
  have keeps : ∀ store other call, standsFor store other →
      ∃ next, Answered other call (store.respond call).1 next ∧
        standsFor (store.respond call).2 next := by
    intro store _ call same
    subst same
    exact ⟨_, .served _ _, rfl⟩
  have stands : standsFor watched.store watched := rfl
  rcases Dialogue.Run.exists_of_responder standsFor keeps dialogue stands with ⟨after, run, rfl⟩
  exact run

/-- A task that yields a result ends with it on the store itself. -/
theorem Yields.run_eq {Result : Type} {task : StoreTask Result} {before next : Watched}
    {value : Except RepoError Result} (yields : Yields task before value next) :
    before.store.run task.run = (value, next.store) := by
  rcases yields _ _ (run_of_store task.run before) with ⟨sameResult, ended⟩ | ⟨error, -, failing⟩
  · exact Prod.ext sameResult (congrArg Watched.store ended)
  · have more := congrArg (List.length ∘ Watched.failures) failing
    simp at more

end Depot.Memory
