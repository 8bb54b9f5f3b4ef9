import Depot.Proofs.Backup
import Depot.Proofs.Exchanges
import Depot.Proofs.Objects

/-!
What a deletion of many objects reports. The keys go to the store in batches, and a response can
name keys that could not be deleted although it is a success. A response that says so of no key is
taken to report nothing, and the bucket itself may be what is missing.
-/

namespace Depot.S3

open Dialogue

/-! ## Batches -/

section Batches

variable {Item : Type} {size : Nat}

theorem flatten_batches (positive : 0 < size) (items : List Item) :
    (Client.batches size items).flatten = items := by
  induction items using Client.batches.induct size with
  | case1 items done =>
      have empty : items = [] := by simpa [Nat.ne_of_gt positive] using done
      rw [Client.batches, if_pos done, empty, List.flatten_nil]
  | case2 items notDone induction =>
      rw [Client.batches, if_neg notDone, List.flatten_cons, induction, List.take_append_drop]

theorem length_of_mem_batches {items batch : List Item}
    (member : batch ∈ Client.batches size items) : 0 < batch.length ∧ batch.length ≤ size := by
  induction items using Client.batches.induct size with
  | case1 items done =>
      rw [Client.batches, if_pos done] at member
      cases member
  | case2 items notDone induction =>
      rw [Client.batches, if_neg notDone] at member
      rcases List.mem_cons.mp member with rfl | member
      · have filled : 0 < items.length := by
          rw [List.length_pos_iff]
          simpa using (not_or.mp notDone).1
        rw [List.length_take]
        omega
      · exact induction member

end Batches

/-! ## Failures -/

namespace Document

/-- The key that an error element names. -/
def keyOf? (element : String) : Option String := (Markup.first? element "Key").map Markup.unescape

def codeOf? (element : String) : Option String := Markup.first? element "Code"

/-- An error element as it is read: one that names no key is passed over. -/
def failure? (element : String) : Option (String × String) :=
  (keyOf? element).map fun key => (key, (codeOf? element).getD "Unknown")

theorem readFailures_eq (text : String) :
    readFailures text = (Markup.elements text "Error").filterMap failure? := by
  rw [readFailures]
  congr 1
  funext element
  rw [failure?, keyOf?, Option.map_map]
  rfl

theorem keys_failures (elements : List String) :
    (elements.filterMap failure?).map Prod.fst = elements.filterMap keyOf? := by
  rw [List.map_filterMap]
  congr 1
  funext element
  rw [failure?, Option.map_map]
  exact Option.map_id'

theorem failures_eq_nil_iff {elements : List String} :
    elements.filterMap failure? = [] ↔ ∀ element ∈ elements, keyOf? element = none := by
  simp only [List.filterMap_eq_nil_iff, failure?, Option.map_eq_none_iff]

theorem failures_ne_nil_iff {elements : List String} :
    elements.filterMap failure? ≠ [] ↔ ∃ element ∈ elements, keyOf? element ≠ none := by
  simp only [ne_eq, failures_eq_nil_iff, not_forall, exists_prop]

theorem failures_missing_iff {elements : List String} :
    (∀ failure ∈ elements.filterMap failure?, failure.2 = "NoSuchKey") ↔
      ∀ element ∈ elements, keyOf? element ≠ none → codeOf? element = some "NoSuchKey" := by
  constructor
  · intro missing element member named
    rcases Option.ne_none_iff_exists'.mp named with ⟨key, isKey⟩
    have isFailure : failure? element = some (key, (codeOf? element).getD "Unknown") := by
      rw [failure?, isKey, Option.map_some]
    have code : (codeOf? element).getD "Unknown" = "NoSuchKey" :=
      missing _ (List.mem_filterMap.mpr ⟨element, member, isFailure⟩)
    cases found : codeOf? element with
    | none =>
        rw [found] at code
        exact absurd code (by decide)
    | some other =>
        rw [found] at code
        exact congrArg some code
  · intro missing failure member
    rcases List.mem_filterMap.mp member with ⟨element, among, isFailure⟩
    rcases Option.map_eq_some_iff.mp isFailure with ⟨key, isKey, rfl⟩
    have code := missing element among (by simp [isKey])
    simp [code]

end Document

theorem missingKeys_eq_ok {failures : List (String × String)} {missing : List String}
    (found : Client.missingKeys failures = .ok missing) :
    (∀ failure ∈ failures, failure.2 = "NoSuchKey") ∧ missing = failures.map Prod.fst := by
  induction failures generalizing missing with
  | nil =>
      cases found
      exact ⟨by simp, rfl⟩
  | cons failure failures induction =>
      rw [Client.missingKeys] at found
      split at found
      next isMissing =>
        cases rest : Client.missingKeys failures with
        | error error =>
            rw [rest] at found
            cases found
        | ok others =>
            rw [rest] at found
            cases found
            rcases induction rest with ⟨areMissing, rfl⟩
            exact ⟨List.forall_mem_cons.mpr ⟨isMissing, areMissing⟩, rfl⟩
      · cases found

theorem missingKeys_eq_error {failures : List (String × String)} {error : RepoError}
    (found : Client.missingKeys failures = .error error) :
    error.isNotFound = false ∧ ∃ failure ∈ failures, failure.2 ≠ "NoSuchKey" := by
  induction failures with
  | nil => cases found
  | cons failure failures induction =>
      rw [Client.missingKeys] at found
      split at found
      · cases rest : Client.missingKeys failures with
        | error other =>
            rw [rest] at found
            cases found
            rcases induction rest with ⟨other, failure, member, notMissing⟩
            exact ⟨other, failure, List.mem_cons_of_mem _ member, notMissing⟩
        | ok others =>
            rw [rest] at found
            cases found
      next notMissing =>
        cases found
        exact ⟨rfl, failure, List.mem_cons_self, notMissing⟩

/-! ## Deletions -/

namespace Exchanges

/-- The error elements of all responses, in order. -/
def errors : Exchanges → List String
  | [] => []
  | ⟨_, .ok response⟩ :: rest => Markup.elements response.text "Error" ++ errors rest
  | ⟨_, .error _⟩ :: rest => errors rest

/-- Whether all keys were submitted for deletion, in batches that one request can delete, and every
batch was answered with a success. -/
def Submit (exchanges : Exchanges) (client : Client) (keys : List ObjectKey) : Prop :=
  ∃ batches : List (List ObjectKey), batches.flatten = keys ∧
    (∀ batch ∈ batches, 0 < batch.length ∧ batch.length ≤ 1000) ∧
    exchanges.map Sigma.fst = batches.map (fun batch => ⟨client, Client.deletionCommand batch⟩) ∧
    ∀ asked ∈ exchanges, Succeeds asked.2

/-- The failures that are read from all responses. -/
def failures (exchanges : Exchanges) : List (String × String) :=
  exchanges.errors.filterMap Document.failure?

theorem failures_cons {asked : Exchange} {response : Http.Response} {rest : Exchanges} :
    failures (⟨asked, .ok response⟩ :: rest) =
      Document.readFailures response.text ++ failures rest := by
  rw [failures, errors, List.filterMap_append, Document.readFailures_eq, failures]

end Exchanges

namespace Client

variable {client : Client} {exchanges : Exchanges}

theorem goes_deleteBatches_ok {batches : List (List ObjectKey)} {missing : List String}
    (goes : (client.deleteBatches batches).run.Goes exchanges (.ok missing)) :
    exchanges.map Sigma.fst = batches.map (fun batch => ⟨client, deletionCommand batch⟩) ∧
      (∀ asked ∈ exchanges, Succeeds asked.2) ∧
      (∀ failure ∈ exchanges.failures, failure.2 = "NoSuchKey") ∧
      missing = exchanges.failures.map Prod.fst := by
  induction batches generalizing exchanges missing with
  | nil =>
      rcases Goes.pure_iff.mp goes with ⟨same, rfl⟩
      cases same
      simp [Exchanges.failures, Exchanges.errors]
  | cons batch batches induction =>
      rw [deleteBatches] at goes
      rcases Goes.bind_iff.mp goes with ⟨_, _, impossible⟩ | ⟨response, _, _, rfl, sending, read⟩
      · cases impossible
      rcases goes_send_iff.mp sending with ⟨reply, rfl, checked⟩
      rcases succeeds_of_check checked.symm with ⟨rfl, success⟩
      rcases Goes.bindExcept_iff.mp read with ⟨_, _, impossible, _⟩ | ⟨found, isFound, goesOn⟩
      · cases impossible
      rcases Goes.bind_iff.mp goesOn with ⟨_, _, impossible⟩ | ⟨others, rest, _, rfl, going, ended⟩
      · cases impossible
      rcases Goes.pure_iff.mp ended with ⟨same, rfl⟩
      cases same
      rcases induction going with ⟨commands, successes, areMissing, rfl⟩
      rcases missingKeys_eq_ok isFound with ⟨isMissing, rfl⟩
      simp only [List.append_nil, List.singleton_append, List.map_cons, List.forall_mem_cons,
        Exchanges.failures_cons, List.map_append, List.forall_mem_append, commands]
      exact ⟨trivial, ⟨⟨response, rfl, success⟩, successes⟩, ⟨isMissing, areMissing⟩, trivial⟩

theorem goes_deleteBatches_error {batches : List (List ObjectKey)} {error : RepoError}
    (possible : exchanges.IsPossible)
    (goes : (client.deleteBatches batches).run.Goes exchanges (.error error)) :
    ((∃ asked ∈ exchanges, ¬Succeeds asked.2) ∨
        ∃ failure ∈ exchanges.failures, failure.2 ≠ "NoSuchKey") ∧
      ((∃ asked ∈ exchanges, HasStatus 404 asked.2) ∧ error = .notFound client.bucket ∨
        (∀ asked ∈ exchanges, ¬HasStatus 404 asked.2) ∧ error.isNotFound = false) := by
  induction batches generalizing exchanges with
  | nil =>
      rcases Goes.pure_iff.mp goes with ⟨same, -⟩
      cases same
  | cons batch batches induction =>
      rw [deleteBatches] at goes
      rcases Goes.bind_iff.mp goes with ⟨_, sending, same⟩ | ⟨response, _, _, rfl, sending, read⟩
      · cases same
        rcases goes_send_iff.mp sending with ⟨reply, rfl, checked⟩
        rcases fails_of_check (possible _ List.mem_cons_self) checked.symm with
          ⟨noSuccess, reported⟩
        exact ⟨.inl ⟨_, List.mem_cons_self, noSuccess⟩, by simpa using reported⟩
      rcases goes_send_iff.mp sending with ⟨reply, rfl, checked⟩
      rcases succeeds_of_check checked.symm with ⟨rfl, success⟩
      have present : ¬HasStatus 404 (.ok response) := fun missing =>
        not_succeeds_of_hasStatus missing ⟨response, rfl, success⟩
      rw [List.singleton_append] at possible ⊢
      rw [Exchanges.failures_cons]
      simp only [List.forall_mem_cons, List.mem_append]
      rcases Goes.bindExcept_iff.mp read with ⟨_, isError, same, rfl⟩ | ⟨found, isFound, goesOn⟩
      · cases same
        rcases missingKeys_eq_error isError with ⟨other, failure, member, notMissing⟩
        exact ⟨.inr ⟨failure, .inl member, notMissing⟩, .inr ⟨⟨present, by simp⟩, other⟩⟩
      rcases Goes.bind_iff.mp goesOn with ⟨_, going, same⟩ | ⟨others, rest, _, rfl, going, ended⟩
      · cases same
        rcases induction (List.forall_mem_cons.mp possible).2 going with ⟨failed, reported⟩
        constructor
        · rcases failed with ⟨asked, member, noSuccess⟩ | ⟨failure, member, notMissing⟩
          · exact .inl ⟨asked, List.mem_cons_of_mem _ member, noSuccess⟩
          · exact .inr ⟨failure, .inr member, notMissing⟩
        · rcases reported with ⟨⟨asked, member, missing⟩, same⟩ | ⟨allPresent, other⟩
          · exact .inl ⟨⟨asked, List.mem_cons_of_mem _ member, missing⟩, same⟩
          · exact .inr ⟨⟨present, allPresent⟩, other⟩
      · rcases Goes.pure_iff.mp ended with ⟨same, -⟩
        cases same

theorem submit_of_commands {keys : List ObjectKey}
    (commands : exchanges.map Sigma.fst =
      (batches batchSize keys).map fun batch => ⟨client, deletionCommand batch⟩)
    (successes : ∀ asked ∈ exchanges, Succeeds asked.2) : exchanges.Submit client keys :=
  ⟨batches batchSize keys, flatten_batches (by decide) keys,
    fun _ member => length_of_mem_batches member, commands, successes⟩

/-- A deletion of many keys goes as that of their batches, and ends with what was missing. -/
theorem goes_batches_of_deleteMany {keys : KeySet} {result : Except RepoError Unit}
    (goes : (client.deleteMany keys).run.Goes exchanges result) :
    ∃ deleted, (client.deleteBatches (batches batchSize keys.toKeys)).run.Goes exchanges deleted ∧
      result = deleted.bind fun missing =>
        if missing = [] then .ok () else .error (.notFound (Text.joinStrings ", " missing)) := by
  rw [deleteMany] at goes
  rcases Goes.bind_iff.mp goes with ⟨error, going, rfl⟩ | ⟨missing, early, late, rfl, going, ended⟩
  · exact ⟨.error error, going, rfl⟩
  · refine ⟨.ok missing, ?_⟩
    cases missing with
    | nil =>
        rcases Goes.pure_iff.mp ended with ⟨rfl, rfl⟩
        rw [List.append_nil]
        exact ⟨going, rfl⟩
    | cons first others =>
        rcases Goes.throw_iff.mp ended with ⟨rfl, rfl⟩
        rw [List.append_nil]
        exact ⟨going, rfl⟩

/-- How a deletion can go: all keys are submitted and at most found missing, or the store answers
that something else is missing, or something else fails. -/
theorem goes_deleteMany {keys : KeySet} {result : Except RepoError Unit}
    (possible : exchanges.IsPossible)
    (goes : (client.deleteMany keys).run.Goes exchanges result) :
    (exchanges.Submit client keys.toKeys ∧ (∀ asked ∈ exchanges, ¬HasStatus 404 asked.2) ∧
        (∀ failure ∈ exchanges.failures, failure.2 = "NoSuchKey") ∧
        result = if exchanges.failures = [] then .ok ()
          else .error (.notFound (Text.joinStrings ", " (exchanges.failures.map Prod.fst)))) ∨
      ((∃ asked ∈ exchanges, ¬Succeeds asked.2) ∨
        ∃ failure ∈ exchanges.failures, failure.2 ≠ "NoSuchKey") ∧
      ∃ error, result = .error error ∧
        ((∃ asked ∈ exchanges, HasStatus 404 asked.2) ∧ error = .notFound client.bucket ∨
          (∀ asked ∈ exchanges, ¬HasStatus 404 asked.2) ∧ error.isNotFound = false) := by
  rcases goes_batches_of_deleteMany goes with ⟨error | missing, going, rfl⟩
  · rcases goes_deleteBatches_error possible going with ⟨failed, reported⟩
    exact .inr ⟨failed, error, rfl, reported⟩
  · rcases goes_deleteBatches_ok going with ⟨commands, successes, areMissing, rfl⟩
    have present : ∀ asked ∈ exchanges, ¬HasStatus 404 asked.2 := fun asked member missing =>
      not_succeeds_of_hasStatus missing (successes asked member)
    refine .inl ⟨submit_of_commands commands successes, present, areMissing, ?_⟩
    simp only [Except.bind, List.map_eq_nil_iff]

theorem Submit.not_failed {keys : List ObjectKey} (submit : exchanges.Submit client keys)
    (areMissing : ∀ failure ∈ exchanges.failures, failure.2 = "NoSuchKey") :
    ¬((∃ asked ∈ exchanges, ¬Succeeds asked.2) ∨
      ∃ failure ∈ exchanges.failures, failure.2 ≠ "NoSuchKey") := by
  rcases submit with ⟨_, -, -, -, successes⟩
  intro failed
  rcases failed with ⟨asked, member, noSuccess⟩ | ⟨failure, member, notMissing⟩
  · exact noSuccess (successes asked member)
  · exact notMissing (areMissing failure member)

theorem deleteMany_ok_iff {keys : KeySet} {result : Except RepoError Unit}
    (possible : exchanges.IsPossible)
    (goes : (client.deleteMany keys).run.Goes exchanges result) :
    result = .ok () ↔ exchanges.Submit client keys.toKeys ∧ exchanges.failures = [] := by
  rcases goes_deleteMany possible goes with
    ⟨submit, -, -, rfl⟩ | ⟨failed, error, rfl, -⟩
  · by_cases nothing : exchanges.failures = []
    · simp [nothing, submit]
    · simp [nothing]
  · constructor
    · intro same
      cases same
    · intro given
      exact absurd failed (Submit.not_failed given.1 (by simp [given.2]))

theorem deleteMany_notFound_iff {keys : KeySet} {result : Except RepoError Unit} {missing : String}
    (possible : exchanges.IsPossible)
    (goes : (client.deleteMany keys).run.Goes exchanges result) :
    result = .error (.notFound missing) ↔
      exchanges.Submit client keys.toKeys ∧ exchanges.failures ≠ [] ∧
        (∀ failure ∈ exchanges.failures, failure.2 = "NoSuchKey") ∧
        missing = Text.joinStrings ", " (exchanges.failures.map Prod.fst) ∨
      (∃ asked ∈ exchanges, HasStatus 404 asked.2) ∧ missing = client.bucket := by
  rcases goes_deleteMany possible goes with
    ⟨submit, present, areMissing, rfl⟩ | ⟨failed, error, rfl, reported⟩
  · have noBucket : ¬∃ asked ∈ exchanges, HasStatus 404 asked.2 := fun given =>
      given.elim fun asked found => present asked found.1 found.2
    by_cases nothing : exchanges.failures = []
    · simp [nothing, noBucket]
    · rw [if_neg nothing]
      constructor
      · intro same
        cases same
        exact .inl ⟨submit, nothing, areMissing, rfl⟩
      · intro given
        rcases given with ⟨-, -, -, rfl⟩ | ⟨found, -⟩
        · rfl
        · exact absurd found noBucket
  · have notAll : ¬(exchanges.Submit client keys.toKeys ∧ exchanges.failures ≠ [] ∧
        (∀ failure ∈ exchanges.failures, failure.2 = "NoSuchKey") ∧
        missing = Text.joinStrings ", " (exchanges.failures.map Prod.fst)) :=
      fun given => Submit.not_failed given.1 given.2.2.1 failed
    rcases reported with ⟨noBucket, rfl⟩ | ⟨present, other⟩
    · rw [or_iff_right notAll]
      simp only [noBucket, true_and, Except.error.injEq, RepoError.notFound.injEq]
      exact eq_comm
    · have noBucket : ¬∃ asked ∈ exchanges, HasStatus 404 asked.2 := fun given =>
        given.elim fun asked found => present asked found.1 found.2
      simp only [notAll, noBucket, false_and, or_false, iff_false]
      intro same
      cases same
      cases other

end Client

end Depot.S3

namespace Depot.Repository

open S3

variable {Handle : Type} {repository : Repository Handle} {path : LogicalPath} {files : List String}

/-- Where missing files are ignored, files are deleted if their keys are, or are found missing. -/
theorem relays_delete_iff {client : Client} {exchanges : Exchanges} :
    client.Relays (repository.delete path files true).run exchanges (.ok ()) ↔
      ∃ keys, files.mapM (repository.keyBelow path) = .ok keys ∧
        (keys = [] ∧ exchanges = [] ∨
          keys ≠ [] ∧ repository.requireClient = .ok () ∧
            ∃ deleted, (client.deleteMany (KeySet.ofKeys keys)).run.Goes exchanges deleted ∧
              (deleted = .ok () ∨ ∃ missing, deleted = .error (.notFound missing))) := by
  rw [Repository.delete, Client.Relays.bindExcept_iff]
  constructor
  · intro given
    rcases given with ⟨_, _, impossible, -⟩ | ⟨keys, found, rest⟩
    · cases impossible
    refine ⟨keys, found, ?_⟩
    split at rest
    next nothing =>
      exact .inl ⟨List.isEmpty_iff.mp nothing, (Client.Relays.done_iff.mp rest).2⟩
    next something =>
      rcases Client.Relays.bindExcept_iff.mp rest with ⟨_, _, impossible, -⟩ | ⟨_, ready, deleting⟩
      · cases impossible
      rcases Client.Relays.andThen_iff.mp deleting with ⟨deleted, _, late, rfl, asked, ending⟩
      have responding := Client.Relays.question_iff.mp asked
      refine .inr ⟨by simpa using something, ready, deleted, ?_⟩
      split at ending
      next missing =>
        rcases Client.Relays.done_iff.mp ending with ⟨-, rfl⟩
        rw [List.append_nil]
        exact ⟨responding, .inr ⟨missing, rfl⟩⟩
      · rcases Client.Relays.done_iff.mp ending with ⟨rfl, rfl⟩
        rw [List.append_nil]
        exact ⟨responding, .inl rfl⟩
  · intro given
    rcases given with ⟨keys, found, given⟩
    refine .inr ⟨keys, found, ?_⟩
    rcases given with ⟨rfl, rfl⟩ | ⟨something, ready, deleted, deleting, reported⟩
    · exact Client.Relays.done_iff.mpr ⟨rfl, rfl⟩
    · rw [if_neg (by simpa using something)]
      refine Client.Relays.bindExcept_iff.mpr (.inr ⟨(), ready, ?_⟩)
      refine Client.Relays.andThen_iff.mpr ⟨deleted, exchanges, [], (List.append_nil _).symm,
        Client.Relays.question_iff.mpr deleting, ?_⟩
      rcases reported with rfl | ⟨missing, rfl⟩
      · exact Client.Relays.done_iff.mpr ⟨rfl, rfl⟩
      · exact Client.Relays.done_iff.mpr ⟨rfl, rfl⟩

/-- Whatever a store answers, a deletion says that it is done exactly if all keys were submitted and
no response has an error that names a key. It says what is missing exactly if all errors that name a
key say that the key is missing, or if the store answered that the bucket is. So where missing files
are ignored, files that the deletion is done with were submitted and are not there any more, unless
the bucket was missing. Errors that name no key are not seen. -/
theorem deletion_reports (client : Client) {exchanges : Exchanges}
    (possible : exchanges.IsPossible) :
    (∀ (keys : KeySet) (result : Except RepoError Unit),
      (client.deleteMany keys).run.Goes exchanges result →
        (result = .ok () ↔ exchanges.Submit client keys.toKeys ∧
          ∀ element ∈ exchanges.errors, Document.keyOf? element = none) ∧
        ∀ missing, result = .error (.notFound missing) ↔
          exchanges.Submit client keys.toKeys ∧
            (∃ element ∈ exchanges.errors, Document.keyOf? element ≠ none) ∧
            (∀ element ∈ exchanges.errors, Document.keyOf? element ≠ none →
              Document.codeOf? element = some "NoSuchKey") ∧
            missing = Text.joinStrings ", " (exchanges.errors.filterMap Document.keyOf?) ∨
          (∃ asked ∈ exchanges, HasStatus 404 asked.2) ∧ missing = client.bucket) ∧
    ∀ {Handle : Type} (repository : Repository Handle) (path : LogicalPath) (files : List String),
      client.Relays (repository.delete path files true).run exchanges (.ok ()) →
        ∃ keys, files.mapM (repository.keyBelow path) = .ok keys ∧
          (exchanges.Submit client (KeySet.ofKeys keys).toKeys ∧
            (∀ element ∈ exchanges.errors, Document.keyOf? element ≠ none →
              Document.codeOf? element = some "NoSuchKey") ∨
          ∃ asked ∈ exchanges, HasStatus 404 asked.2) := by
  simp only [← Document.failures_eq_nil_iff, ← Document.failures_ne_nil_iff,
    ← Document.failures_missing_iff, ← Document.keys_failures]
  constructor
  · intro keys result goes
    exact ⟨Client.deleteMany_ok_iff possible goes,
      fun missing => Client.deleteMany_notFound_iff possible goes⟩
  · intro Handle repository path files relays
    rcases relays_delete_iff.mp relays with
      ⟨keys, found, ⟨rfl, rfl⟩ | ⟨-, -, deleted, deleting, reported⟩⟩
    · exact ⟨[], found, .inl ⟨⟨[], rfl, by simp, rfl, by simp⟩, by simp [Exchanges.errors]⟩⟩
    refine ⟨keys, found, ?_⟩
    rcases reported with rfl | ⟨missing, rfl⟩
    · rcases (Client.deleteMany_ok_iff possible deleting).mp rfl with ⟨submit, nothing⟩
      refine .inl ⟨submit, ?_⟩
      rw [← Exchanges.failures, nothing]
      simp
    · rcases (Client.deleteMany_notFound_iff possible deleting).mp rfl with
        ⟨submit, -, areMissing, -⟩ | ⟨bucket, -⟩
      · exact .inl ⟨submit, areMissing⟩
      · exact .inr bucket

/-! Two files of which one is missing. -/

private def clerk : Client := ⟨"bucket", "us-east-1", none, "AK", "SK", none⟩

private def stand : Repository Unit := ⟨.flat, 4, 10, .empty, some ()⟩

private def tray : LogicalPath := .make .swarm none "/t/"

private def sheets : List ObjectKey := [⟨"t/a"⟩, ⟨"t/b"⟩]

private def sheetKeys : KeySet := KeySet.ofKeys sheets

private def answer (status : Nat) (body : String) : Http.Response := ⟨status, [], body.toUTF8⟩

private def oneMissing : Http.Response :=
  answer 200 "<DeleteResult><Error><Key>t/a</Key><Code>NoSuchKey</Code></Error></DeleteResult>"

private def cleared (response : Http.Response) : Exchanges :=
  (clerk.deleteMany sheetKeys).run.transcript Exchange.fromScript [response]

private theorem goes_cleared {response : Http.Response} {result : Except RepoError Unit}
    (ends : ((clerk.deleteMany sheetKeys).run.run Exchange.fromScript [response]).1 = result) :
    (clerk.deleteMany sheetKeys).run.Goes (cleared response) result :=
  ends ▸ Dialogue.goes_run _ _ _

private theorem relays_cleared {response : Http.Response} {result : Except RepoError Unit}
    (goes : (clerk.deleteMany sheetKeys).run.Goes (cleared response) result)
    (reported : result = .ok () ∨ ∃ missing, result = .error (.notFound missing)) :
    clerk.Relays (stand.delete tray ["a", "b"] true).run (cleared response) (.ok ()) :=
  relays_delete_iff.mpr ⟨sheets, rfl, .inr ⟨by decide, rfl, result, goes, reported⟩⟩

theorem deletion_reports_one_missing :
    ∃ exchanges : Exchanges, exchanges.IsPossible ∧
      (clerk.deleteMany sheetKeys).run.Goes exchanges (.error (.notFound "t/a")) ∧
      clerk.Relays (stand.delete tray ["a", "b"] true).run exchanges (.ok ()) ∧
      exchanges.Submit clerk sheetKeys.toKeys ∧
      "t/a" = Text.joinStrings ", " (exchanges.errors.filterMap Document.keyOf?) ∧
      ∀ element ∈ exchanges.errors, Document.keyOf? element ≠ none →
        Document.codeOf? element = some "NoSuchKey" := by
  have possible : (cleared oneMissing).IsPossible := isPossible_fromScript _ _
  have goes : (clerk.deleteMany sheetKeys).run.Goes (cleared oneMissing)
      (.error (.notFound "t/a")) := goes_cleared (by decide +kernel)
  have relays := relays_cleared goes (.inr ⟨_, rfl⟩)
  rcases deletion_reports clerk possible with ⟨reports, settles⟩
  refine ⟨_, possible, goes, relays, ?_⟩
  rcases ((reports _ _ goes).2 "t/a").mp rfl with ⟨submit, -, areMissing, same⟩ | ⟨-, isBucket⟩
  · exact ⟨submit, same, areMissing⟩
  · exact absurd isBucket (by decide)

private def noBucket : Http.Response := answer 404 "<Error><Code>NoSuchBucket</Code></Error>"

private def denied : Http.Response := answer 200 "<Error><Code>AccessDenied</Code></Error>"

private theorem cleared_noBucket :
    cleared noBucket =
      [⟨⟨clerk, Client.deletionCommand sheetKeys.toKeys⟩, .ok noBucket⟩] := by
  have oneBatch : Client.batches Client.batchSize sheetKeys.toKeys = [sheetKeys.toKeys] := by
    decide +kernel
  rw [cleared, S3.Client.deleteMany, oneBatch]
  rfl

/-- A deletion of two files is done although the store refused it, since the bucket is what is
missing; and it is done although the response says that access was denied, since that error names no
key. -/
theorem deletion_unreported :
    (∃ exchanges : Exchanges, exchanges.IsPossible ∧
      (clerk.deleteMany sheetKeys).run.Goes exchanges (.error (.notFound "bucket")) ∧
      clerk.Relays (stand.delete tray ["a", "b"] true).run exchanges (.ok ()) ∧
      exchanges ≠ [] ∧ ∀ asked ∈ exchanges, ¬Succeeds asked.2) ∧
    ∃ exchanges : Exchanges, exchanges.IsPossible ∧
      (clerk.deleteMany sheetKeys).run.Goes exchanges (.ok ()) ∧
      clerk.Relays (stand.delete tray ["a", "b"] true).run exchanges (.ok ()) ∧
      ∃ element ∈ exchanges.errors, Document.codeOf? element = some "AccessDenied" := by
  constructor
  · have goes : (clerk.deleteMany sheetKeys).run.Goes (cleared noBucket)
        (.error (.notFound "bucket")) := goes_cleared (by decide +kernel)
    refine ⟨cleared noBucket, isPossible_fromScript _ _, goes,
      relays_cleared goes (.inr ⟨_, rfl⟩), ?_⟩
    rw [cleared_noBucket, List.forall_mem_singleton]
    exact ⟨by simp, not_succeeds_of_hasStatus ⟨noBucket, rfl, rfl⟩⟩
  · have goes : (clerk.deleteMany sheetKeys).run.Goes (cleared denied) (.ok ()) :=
      goes_cleared (by decide +kernel)
    have errors : (cleared denied).errors = ["<Code>AccessDenied</Code>"] := by decide +kernel
    refine ⟨cleared denied, isPossible_fromScript _ _, goes, relays_cleared goes (.inl rfl), ?_⟩
    rw [errors]
    exact ⟨_, List.mem_singleton_self _, by decide +kernel⟩

end Depot.Repository
