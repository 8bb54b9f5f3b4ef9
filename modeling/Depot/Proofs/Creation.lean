import Mathlib.Data.List.TakeWhile
import Depot.Proofs.Markers

/-!
Making a directory, call by call. The walk upwards looks for the directories that are lacking and
for the one that it stops at; then the markers are put, the outermost first. The calls of a run are
a beginning of this sequence, and end where one fails. So what a failure leaves behind are the
markers of the outermost directories, and making a directory once more only looks for it.
-/

namespace Depot.Memory.Store

variable {store : Store} {key : ObjectKey} {keys : List ObjectKey}

/-! ## Markers at some keys -/

def withMarkers (store : Store) (keys : List ObjectKey) : Store :=
  keys.foldl (fun store key => store.put key .marker) store

theorem find?_withMarkers :
    (store.withMarkers keys).find? key = if key ∈ keys then some .marker else store.find? key := by
  induction keys generalizing store with
  | nil => simp [withMarkers]
  | cons first keys induction =>
      rw [withMarkers, List.foldl_cons, ← withMarkers, induction, find?_put]
      by_cases here : first = key
      · simp [here]
      · simp [here, Ne.symm here]

/-- Whether a store is an earlier one with empty markers at some keys where nothing was. -/
structure Gains (before after : Store) (keys : List ObjectKey) : Prop where
  absent : ∀ key ∈ keys, before.find? key = none
  marked : ∀ key ∈ keys, after.find? key = some .marker
  kept : ∀ key, key ∉ keys → after.find? key = before.find? key
  pageSize : after.pageSize = before.pageSize
  loose : after.loose = before.loose

@[simp] theorem pageSize_withMarkers : (store.withMarkers keys).pageSize = store.pageSize := by
  induction keys generalizing store with
  | nil => rfl
  | cons first keys induction => exact @induction (store.put first .marker)

@[simp] theorem loose_withMarkers : (store.withMarkers keys).loose = store.loose := by
  induction keys generalizing store with
  | nil => rfl
  | cons first keys induction => exact @induction (store.put first .marker)

/-- The order in which markers are put leaves no trace. -/
theorem gains_withMarkers (absent : ∀ key ∈ keys, store.find? key = none) :
    store.Gains (store.withMarkers keys.reverse) keys where
  absent := absent
  marked key member := by rw [find?_withMarkers, if_pos (List.mem_reverse.mpr member)]
  kept key other := by
    rw [find?_withMarkers, if_neg]
    exact fun member => other (List.mem_reverse.mp member)
  pageSize := pageSize_withMarkers
  loose := loose_withMarkers

/-! ## The directories that are looked for -/

theorem find?_of_mem_lacking {directory : ObjectKey} (member : key ∈ store.lacking directory) :
    store.find? key = none := by
  have passed := List.mem_takeWhile_imp member
  simp only [Bool.and_eq_true, Option.isNone_iff_eq_none] at passed
  exact passed.2

/-- The directories that a walk upwards looks for: those that are lacking, and the one that it stops
at, unless that is a root or there is none. -/
def visited (store : Store) (directory : ObjectKey) : List ObjectKey :=
  ((directory :: directory.ancestors).takeWhile fun key => !key.isRoot).take
    ((store.lacking directory).length + 1)

theorem visited_of_isRoot (isRoot : key.isRoot = true) : store.visited key = [] := by
  rw [visited, List.takeWhile_cons]
  simp [isRoot]

theorem visited_of_stored {object : StoredObject} (notRoot : key.isRoot = false)
    (stored : store.find? key = some object) : store.visited key = [key] := by
  rw [visited, lacking_of_stored stored, List.takeWhile_cons]
  simp [notRoot]

theorem visited_of_absent (notRoot : key.isRoot = false) (absent : store.find? key = none) :
    store.visited key = key :: match key.parent? with
      | none => []
      | some above => store.visited above := by
  rw [visited, lacking_of_absent notRoot absent, List.takeWhile_cons, ObjectKey.ancestors_eq]
  cases parent : key.parent? <;> simp [notRoot, visited]

/-- After markers have come to all that was lacking, nothing is. -/
theorem lacking_of_gains {after : Store} (gains : store.Gains after (store.lacking key)) :
    after.lacking key = [] := by
  cases isRoot : key.isRoot with
  | true => exact lacking_of_isRoot isRoot
  | false =>
      cases stored : store.find? key with
      | some object =>
          have notLacking : key ∉ store.lacking key := by simp [lacking_of_stored stored]
          exact lacking_of_stored ((gains.kept key notLacking).trans stored)
      | none =>
          have lacking : key ∈ store.lacking key := by simp [lacking_of_absent isRoot stored]
          exact lacking_of_stored (gains.marked key lacking)

end Depot.Memory.Store

namespace Depot.Directory

open Memory Dialogue

variable {before after : Watched} {notes calls : List Call}

/-! ## The walk upwards -/

/-- Whether a task looks for some keys and ends with a value, or fails at one of them. Either way
the store stays as it is. -/
def LooksFor {Result : Type} (task : StoreTask Result) (before : Watched) (keys : List ObjectKey)
    (value : Result) : Prop :=
  ∀ notes result after calls,
    Run (Noting Answered) task.run (before, notes) result (after, calls) →
    (result = .ok value ∧ after = before ∧ calls = notes ++ keys.map .head) ∨
      ∃ error looked, result = .error error ∧ after = before.failing error ∧ looked <+: keys ∧
        calls = notes ++ looked.map .head

namespace LooksFor

variable {Result Next : Type}

theorem ofPure (value : Result) : LooksFor (pure value) before [] value := by
  intro notes result after calls run
  rcases Run.pure_iff.mp run with ⟨rfl, same⟩
  cases same
  exact .inl ⟨rfl, rfl, by simp⟩

theorem bind {first : StoreTask Result} {second : Result → StoreTask Next}
    {keys more : List ObjectKey} {value : Result} {next : Next}
    (looks : LooksFor first before keys value)
    (goesOn : LooksFor (second value) before more next) :
    LooksFor (first >>= second) before (keys ++ more) next := by
  intro notes result after calls run
  rcases Run.bind_iff.mp run with ⟨error, asked, rfl⟩ | ⟨found, ⟨middle, noted⟩, asked, rest⟩
  · rcases looks _ _ _ _ asked with ⟨same, -⟩ | ⟨_, looked, same, rfl, part, rfl⟩
    · cases same
    · cases same
      exact .inr ⟨error, looked, rfl, rfl, part.trans (List.prefix_append keys more), rfl⟩
  · rcases looks _ _ _ _ asked with ⟨same, rfl, rfl⟩ | ⟨_, _, same, -⟩
    · cases same
      rcases goesOn _ _ _ _ rest with ⟨rfl, rfl, rfl⟩ | ⟨error, looked, rfl, rfl, part, rfl⟩
      · exact .inl ⟨rfl, rfl, by simp⟩
      · refine .inr ⟨error, keys ++ looked, rfl, rfl, ?_, by simp⟩
        exact (List.prefix_append_right_inj keys).mpr part
    · cases same

theorem exists? (key : ObjectKey) :
    LooksFor (Client.exists? key) before [key] (before.store.find? key).isSome := by
  intro notes result after calls run
  have isNoted : calls = notes ++ [.head key] := by
    rcases Run.ask_iff.mp run with ⟨reply, middle, ⟨-, noted⟩, rest⟩
    have ended : (after, calls) = middle := by
      cases reply with
      | ok found => exact (Run.done_iff.mp rest).2
      | error error => cases error <;> exact (Run.done_iff.mp rest).2
    rw [← noted, ← ended]
  rcases Yields.exists? key _ _ run.of_noting with ⟨rfl, rfl⟩ | ⟨error, rfl, rfl⟩
  · exact .inl ⟨rfl, rfl, isNoted⟩
  · exact .inr ⟨error, [key], rfl, rfl, List.prefix_rfl, isNoted⟩

/-- The walk upwards finds what is lacking. -/
theorem unmarked (directory : ObjectKey) :
    LooksFor (unmarked directory) before (before.store.visited directory)
      (before.store.lacking directory) := by
  induction directory using ObjectKey.upwards with
  | step directory induction =>
      rw [Directory.unmarked]
      split
      · next isRoot =>
        rw [Store.visited_of_isRoot isRoot, Store.lacking_of_isRoot isRoot]
        exact ofPure []
      next notRoot =>
      rw [Bool.not_eq_true] at notRoot
      cases stored : before.store.find? directory with
      | some object =>
          rw [Store.visited_of_stored notRoot stored, Store.lacking_of_stored stored]
          apply (exists? directory).bind
          rw [stored]
          exact ofPure []
      | none =>
          rw [Store.visited_of_absent notRoot stored, Store.lacking_of_absent notRoot stored]
          apply (exists? directory).bind
          rw [stored, Option.isSome_none, if_neg Bool.false_ne_true]
          split
          · next noParent =>
            rw [noParent]
            exact ofPure [directory]
          · next above parent =>
            have higher : LooksFor
                (Directory.unmarked above >>= fun found => pure (directory :: found)) before
                (before.store.visited above ++ []) (directory :: before.store.lacking above) :=
              (induction above parent).bind (ofPure _)
            rw [List.append_nil] at higher
            simpa only [parent] using higher

end LooksFor

/-! ## The markers -/

/-- Markers are put one after another, up to the first that cannot be put. -/
theorem noting_putMarkers {keys : List ObjectKey} {result : Except RepoError Unit}
    (run : Run (Noting Answered) (putMarkers keys).run (before, notes) result (after, calls)) :
    (result = .ok () ∧ after = { before with store := before.store.withMarkers keys } ∧
        calls = notes ++ keys.map .putMarker) ∨
      ∃ error done key rest, result = .error error ∧ keys = done ++ key :: rest ∧
        after = ⟨before.store.withMarkers done, error :: before.failures⟩ ∧
        calls = notes ++ (done ++ [key]).map .putMarker := by
  induction keys generalizing before notes with
  | nil =>
      rcases Run.pure_iff.mp run with ⟨rfl, same⟩
      cases same
      exact .inl ⟨rfl, rfl, by simp⟩
  | cons key keys induction =>
      rcases Run.bind_iff.mp run with ⟨error, asked, rfl⟩ | ⟨value, ⟨middle, noted⟩, asked, rest⟩
      · rcases Run.question_iff.mp asked with ⟨answered, rfl⟩
        rcases answered.putMarker with ⟨same, -⟩ | ⟨_, same, rfl⟩
        · cases same
        · cases same
          exact .inr ⟨error, [], key, keys, rfl, rfl, rfl, rfl⟩
      · rcases Run.question_iff.mp asked with ⟨answered, rfl⟩
        rcases answered.putMarker with ⟨-, rfl⟩ | ⟨_, same, -⟩
        · rcases induction rest with
            ⟨rfl, rfl, rfl⟩ | ⟨error, done, last, others, rfl, rfl, rfl, rfl⟩
          · exact .inl ⟨rfl, rfl, by simp⟩
          · exact .inr ⟨error, key :: done, last, others, rfl, rfl, rfl, by simp⟩
        · cases same

/-! ## Making a directory -/

/-- What becomes of making a directory: the calls go through a plan, and the store has gained
markers at the directories from some one outwards, all of them if no call has failed. -/
structure Creates (directory : ObjectKey) (before : Watched) (calls : List Call)
    (result : Except RepoError Unit) (after : Watched) : Prop where
  planned : calls <+: (before.store.visited directory).map .head ++
    (before.store.lacking directory).reverse.map .putMarker
  gains : ∃ inner outer, before.store.lacking directory = inner ++ outer ∧
    before.store.Gains after.store outer ∧
    ((result = .ok () ∧ inner = [] ∧ after.failures = before.failures) ∨
      ∃ error, result = .error error ∧ after.failures = error :: before.failures)

theorem noting_create {key : ObjectKey} {result : Except RepoError Unit}
    (run : Run (Noting Answered) (create .hierarchical key).run (before, []) result
      (after, calls)) :
    Creates key.asDirectory before calls result after := by
  have absent : ∀ directory ∈ before.store.lacking key.asDirectory,
      before.store.find? directory = none := fun _ => Store.find?_of_mem_lacking
  rcases Run.bind_iff.mp run with ⟨error, asked, rfl⟩ | ⟨found, ⟨middle, noted⟩, asked, rest⟩
  · rcases LooksFor.unmarked _ _ _ _ _ asked with ⟨same, -⟩ | ⟨_, looked, same, rfl, part, rfl⟩
    · cases same
    · cases same
      have looking : looked.map Call.head <+: (before.store.visited key.asDirectory).map .head :=
        part.map Call.head
      have nothing : before.store.Gains before.store [] :=
        Store.gains_withMarkers (List.forall_mem_nil _)
      exact ⟨looking.trans (List.prefix_append _ _), _, [], (List.append_nil _).symm, nothing,
        .inr ⟨error, rfl, rfl⟩⟩
  rcases LooksFor.unmarked _ _ _ _ _ asked with ⟨same, rfl, rfl⟩ | ⟨_, _, same, -⟩
  case inr => cases same
  cases same
  rcases noting_putMarkers rest with
    ⟨rfl, rfl, rfl⟩ | ⟨error, done, last, others, rfl, reversed, rfl, rfl⟩
  · exact ⟨List.prefix_rfl, [], _, rfl, Store.gains_withMarkers absent, .inl ⟨rfl, rfl, rfl⟩⟩
  · -- The markers come with the outermost first, so what was put is the end of what is lacking.
    have whole : middle.store.lacking key.asDirectory =
        (last :: others).reverse ++ done.reverse := by
      rw [← List.reverse_append, ← reversed, List.reverse_reverse]
    have put : middle.store.Gains (middle.store.withMarkers done.reverse.reverse) done.reverse := by
      apply Store.gains_withMarkers
      intro directory member
      exact absent directory (whole ▸ List.mem_append_right _ member)
    rw [List.reverse_reverse] at put
    refine ⟨?_, _, _, whole, put, .inr ⟨error, rfl, rfl⟩⟩
    rw [List.nil_append, reversed]
    apply (List.prefix_append_right_inj _).mpr
    apply List.IsPrefix.map
    exact ⟨others, by simp⟩

namespace Creates

variable {directory : ObjectKey} {result : Except RepoError Unit}

theorem length_calls_le (creates : Creates directory before calls result after) :
    calls.length ≤ 2 * (before.store.lacking directory).length + 1 := by
  have short := creates.planned.length_le
  simp only [List.length_append, List.length_map, List.length_reverse] at short
  have looked : (before.store.visited directory).length ≤
      (before.store.lacking directory).length + 1 := List.length_take_le _ _
  omega

theorem gains_all (creates : Creates directory before calls (.ok ()) after) :
    before.store.Gains after.store (before.store.lacking directory) := by
  rcases creates.gains with ⟨inner, outer, whole, gains, ⟨-, rfl, -⟩ | ⟨_, same, -⟩⟩
  · rw [whole]
    exact gains
  · cases same

theorem ok_of_failures (creates : Creates directory before calls result after)
    (none : after.failures = before.failures) : result = .ok () := by
  rcases creates.gains with ⟨_, _, -, -, ⟨isOk, -, -⟩ | ⟨error, -, more⟩⟩
  · exact isOk
  · rw [none] at more
    exact absurd (congrArg List.length more) (by simp)

/-- Where nothing is lacking, the store stays as it is and no marker is put. -/
theorem of_lacking_nil (creates : Creates directory before calls result after)
    (settled : before.store.lacking directory = []) :
    after.store = before.store ∧ ∀ key, .putMarker key ∉ calls := by
  constructor
  · rcases creates.gains with ⟨inner, outer, whole, gains, -⟩
    rw [settled] at whole
    rcases List.append_eq_nil_iff.mp whole.symm with ⟨rfl, rfl⟩
    exact Store.ext_find? gains.pageSize gains.loose fun key => gains.kept key List.not_mem_nil
  · intro key member
    have planned := creates.planned.subset member
    simp [settled] at planned

end Creates

/-- Making a directory only adds. In the flat namespace no call is made. In the hierarchical one it
comes to an end whatever calls are planned to fail, and the calls go through a fixed sequence, up to
one that fails: first the directories upwards, to the one that the walk stops at, then a marker for
each that was lacking, the outermost first. The store gains these markers, or after a failure those
of the outermost directories, and nothing else in it changes. After success, making the directory
again puts no marker. -/
theorem create_additive (key : ObjectKey) :
    (create .flat key).run = .done (.ok ()) ∧
    (∀ (plan : List Fault) (store : Store), IsPlain plan →
      let ended := (create .hierarchical key).run.run (Fault.interpose Store.respond) (plan, store)
      ∃ after calls, after.store = ended.2.2 ∧
        Run (Noting Answered) (create .hierarchical key).run (.fresh store, []) ended.1
          (after, calls)) ∧
    ∀ (before after : Watched) (calls : List Call) (result : Except RepoError Unit),
      Run (Noting Answered) (create .hierarchical key).run (before, []) result (after, calls) →
      let lacking := before.store.lacking key.asDirectory
      (calls <+: (before.store.visited key.asDirectory).map .head ++
          lacking.reverse.map .putMarker ∧ calls.length ≤ 2 * lacking.length + 1) ∧
      (after.failures = before.failures → result = .ok ()) ∧
      (∀ error, result = .error error → ∃ inner outer, lacking = inner ++ outer ∧
        before.store.Gains after.store outer) ∧
      (result = .ok () → before.store.Gains after.store lacking ∧
        ∀ (last : Watched) (more : List Call) (again : Except RepoError Unit),
          Run (Noting Answered) (create .hierarchical key).run (after, []) again (last, more) →
          last.store = after.store ∧ (∀ marked, .putMarker marked ∉ more) ∧
            (last.failures = after.failures → again = .ok ())) := by
  refine ⟨rfl, ?_, ?_⟩
  · intro plan store plain ended
    rcases run_of_interpose plain (create .hierarchical key).run store with ⟨after, run, same⟩
    rcases run.exists_noting [] with ⟨calls, noting⟩
    exact ⟨after, calls, same, noting⟩
  intro before after calls result run lacking
  have creates := noting_create run
  refine ⟨⟨creates.planned, creates.length_calls_le⟩, creates.ok_of_failures, ?_, ?_⟩
  · intro error _
    rcases creates.gains with ⟨inner, outer, whole, gains, -⟩
    exact ⟨inner, outer, whole, gains⟩
  · intro isOk
    subst isOk
    refine ⟨creates.gains_all, ?_⟩
    intro last more again repeated
    have creating := noting_create repeated
    rcases creating.of_lacking_nil (Store.lacking_of_gains creates.gains_all) with ⟨same, noMarker⟩
    exact ⟨same, noMarker, creating.ok_of_failures⟩

/-! A key with an empty level, in a store that has the directory before it. The markers are put in
order; if the second one is lost, only the outermost is there. -/

private def loft : Store := (Store.empty.put ⟨"a/"⟩ .marker).insert ⟨"a//b/f"⟩ "old".toUTF8

private def secondMarkerLost : List Fault := [⟨.putMarker, none, some 2, .transport "down", 0, 0⟩]

private def furnished (plan : List Fault) : Except RepoError Unit × (List Fault × Store) :=
  (create .hierarchical ⟨"a//b/c"⟩).run.run (Fault.interpose Store.respond) (plan, loft)

theorem create_additive_loft :
    loft.lacking ⟨"a//b/c/"⟩ = [⟨"a//b/c/"⟩, ⟨"a//b/"⟩, ⟨"a//"⟩] ∧
    (furnished []).1 = .ok () ∧
    loft.Gains (furnished []).2.2 [⟨"a//b/c/"⟩, ⟨"a//b/"⟩, ⟨"a//"⟩] ∧
    (furnished secondMarkerLost).1 = .error (.transport "down") ∧
    (furnished secondMarkerLost).2.2.keys = ["a/", "a//", "a//b/f"] ∧
    ∃ inner outer, [⟨"a//b/c/"⟩, ⟨"a//b/"⟩, ⟨"a//"⟩] = inner ++ outer ∧
      loft.Gains (furnished secondMarkerLost).2.2 outer := by
  have lacking : loft.lacking (ObjectKey.mk "a//b/c").asDirectory =
      [⟨"a//b/c/"⟩, ⟨"a//b/"⟩, ⟨"a//"⟩] := by decide +kernel
  have isOk : (furnished []).1 = .ok () := by decide +kernel
  have isError : (furnished secondMarkerLost).1 = .error (.transport "down") := by decide +kernel
  rcases create_additive ⟨"a//b/c"⟩ with ⟨-, ends, adds⟩
  have nothingLost : IsPlain [] := by simp [IsPlain]
  rcases ends [] loft nothingLost with ⟨after, calls, isStore, run⟩
  have made := (adds _ _ _ _ run).2.2.2 isOk
  have oneLost : IsPlain secondMarkerLost := by simp [IsPlain, secondMarkerLost]
  rcases ends secondMarkerLost loft oneLost with ⟨later, others, isLater, broken⟩
  have left := (adds _ _ _ _ broken).2.2.1 _ isError
  change loft.Gains _ (loft.lacking _) ∧ _ at made
  change ∃ inner outer, loft.lacking _ = _ ∧ loft.Gains _ _ at left
  rw [lacking, isStore] at made
  rw [lacking, isLater] at left
  exact ⟨by decide +kernel, isOk, made.1, isError, by decide +kernel, left⟩

end Depot.Directory
