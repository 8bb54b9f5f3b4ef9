import Depot.Repository
import Depot.Proofs.Children

/-!
Deleting a directory. What is deleted is what starts with the key of the directory, without the
delimiters at its end but for one; nothing else changes, and nothing changes at all if a call fails.
The guard of the root looks at the key before it is trimmed. In the flat namespace the key has been
trimmed before, and the guard keeps the repository; in the hierarchical one a key of two delimiters
or more passes the guard, and as nothing is left of it, everything is deleted.
-/

namespace Depot.Memory.Store

/-- The store without the keys that start with a text. -/
def withoutLead (store : Store) (lead : String) : Store :=
  store.eraseAll
    ((store.keys.filter fun key => Text.startsWith lead.toList key.toList).map ObjectKey.mk)

variable {store : Store} {lead : String}

theorem find?_withoutLead {key : ObjectKey} :
    (store.withoutLead lead).find? key =
      if Text.startsWith lead.toList key.text.toList = true then none else store.find? key := by
  rw [withoutLead, find?_eraseAll]
  cases stored : store.find? key with
  | none => simp
  | some object =>
      have isStored : key.text ∈ store.keys := mem_keys_iff.mpr ⟨object, stored⟩
      have isAmong : key ∈ ((store.keys.filter fun key =>
          Text.startsWith lead.toList key.toList).map ObjectKey.mk) ↔
            Text.startsWith lead.toList key.text.toList = true := by
        rw [List.mem_map]
        constructor
        · intro given
          rcases given with ⟨text, among, rfl⟩
          exact (List.mem_filter.mp among).2
        · intro starts
          exact ⟨key.text, List.mem_filter.mpr ⟨isStored, starts⟩, rfl⟩
      simp only [isAmong]

theorem mem_keys_withoutLead {key : String} :
    key ∈ (store.withoutLead lead).keys ↔
      key ∈ store.keys ∧ Text.startsWith lead.toList key.toList = false := by
  rw [mem_keys_iff, mem_keys_iff, find?_withoutLead]
  cases Text.startsWith lead.toList key.toList <;> simp

theorem length_keys_withoutLead_le (store : Store) (lead : String) :
    (store.withoutLead lead).keys.length ≤ store.keys.length := by
  have distinct : (store.withoutLead lead).keys.Nodup :=
    (store.withoutLead lead).objects.keys_increasing.imp fun less => ne_of_lt less
  apply (List.subperm_of_subset distinct _).length_le
  intro key member
  exact (mem_keys_withoutLead.mp member).1

theorem keys_withoutLead_empty (store : Store) : (store.withoutLead "").keys = [] := by
  apply List.eq_nil_iff_forall_not_mem.mpr
  intro key member
  rcases mem_keys_withoutLead.mp member with ⟨-, startsNot⟩
  cases startsNot

end Depot.Memory.Store

namespace Depot.Directory

open Memory

variable {before : Watched}

/-- Deleting only what is stored succeeds. -/
theorem respond_deleteMany_of_stored {store : Store} {keys : KeySet}
    (stored : ∀ key ∈ keys.toKeys, (store.find? key).isSome = true) :
    (store.respond (.deleteMany keys)).1 = .ok () := by
  have noneMissing : store.missing keys.toKeys = [] := by
    apply List.filter_eq_nil_iff.mpr
    intro key member
    rw [Bool.not_eq_true, Option.isNone_eq_false_iff]
    exact stored key member
  simp only [Store.respond, noneMissing]
  rfl

/-- Looking for the keys below a lead changes nothing and finds all of them, unless there are too
many keys for the pages that may come. -/
theorem yields_keysBelow (before : Watched) (lead : String) (limit : Nat) :
    ∃ value, Yields (keysBelow lead limit) before value before ∧
      (∀ error, value = .error error → limit ≤ before.store.keys.length) ∧
      ∀ found, value = .ok found → ∀ text,
        text ∈ found ↔ text ∈ before.store.keys.filter fun key =>
          Text.startsWith lead.toList key.toList := by
  rcases yields_collectPages before lead none limit limit none trivial with
    ⟨value, collected, endless, whole⟩
  cases value with
  | error error =>
      refine ⟨.error error, collected.stopping, ?_, by simp⟩
      intro _ _
      exact le_trans (endless error rfl).2 (Store.length_entriesBehind_le _ _ _ _)
  | ok pages =>
      refine ⟨.ok _, collected.reading (Yields.ofPure _), by simp, ?_⟩
      intro _ same text
      cases same
      rw [List.mem_filter, List.mem_filter, (whole pages rfl).1, List.mem_filterMap]
      constructor
      · intro given
        rcases given with ⟨⟨entry, among, isKey⟩, starts⟩
        rcases Store.mem_entriesBehind.mp among with ⟨key, stored, -, -, rfl⟩
        cases isKey
        exact ⟨stored, starts⟩
      · intro given
        rcases given with ⟨stored, starts⟩
        refine ⟨⟨.key text, ?_, rfl⟩, starts⟩
        exact Store.mem_entriesBehind.mpr ⟨text, stored, startsWith_filterLead starts, rfl, rfl⟩

/-- Deleting the keys below a lead leaves a store without them. -/
theorem yields_deleteKeys (before : Watched) {lead : String} {keys : List String}
    (whole : ∀ text, text ∈ keys ↔ text ∈ before.store.keys.filter fun key =>
      Text.startsWith lead.toList key.toList) :
    Yields (deleteKeys keys) before (.ok ())
      { before with store := before.store.withoutLead lead } := by
  have among (key : ObjectKey) : key ∈ keys.map ObjectKey.mk ↔
      key ∈ (before.store.keys.filter fun key =>
        Text.startsWith lead.toList key.toList).map ObjectKey.mk := by
    simp only [List.mem_map, whole]
  rw [deleteKeys]
  split
  · next nothing =>
    rw [List.isEmpty_iff] at nothing
    have noneBelow : (before.store.keys.filter fun key =>
        Text.startsWith lead.toList key.toList) = [] := by
      apply List.eq_nil_iff_forall_not_mem.mpr
      intro text member
      rw [← whole, nothing] at member
      cases member
    have same : before.store.withoutLead lead = before.store := by
      rw [Store.withoutLead, noneBelow]
      rfl
    rw [same]
    exact Yields.ofPure ()
  · have erased : before.store.eraseAll (KeySet.ofKeys (keys.map ObjectKey.mk)).toKeys =
        before.store.withoutLead lead := by
      apply Store.ext_find?
      · rw [Store.withoutLead, Store.pageSize_eraseAll, Store.pageSize_eraseAll]
      · rw [Store.withoutLead, Store.loose_eraseAll, Store.loose_eraseAll]
      · intro key
        simp only [Store.withoutLead, Store.find?_eraseAll, mem_toKeys_ofKeys, among]
    have deleted : Yields (Client.deleteMany (KeySet.ofKeys (keys.map ObjectKey.mk))) before _ _ :=
      Yields.deleteMany _
    rw [erased, respond_deleteMany_of_stored] at deleted
    · exact deleted
    · intro key member
      rw [mem_toKeys_ofKeys, among, List.mem_map] at member
      rcases member with ⟨text, member, rfl⟩
      rcases Store.mem_keys_iff.mp (List.mem_filter.mp member).1 with ⟨object, stored⟩
      rw [stored]
      rfl

/-- Deleting a directory that is not the root clears what is below it, unless there are too many keys
for the pages that may come. -/
theorem yields_delete (before : Watched) (limit : Nat) {key : ObjectKey}
    (notRoot : key.isRoot = false) :
    ∃ value next, Yields (delete limit key) before value next ∧
      (∀ error, value = .error error → limit ≤ before.store.keys.length ∧ next = before) ∧
      (value = .ok () → next = { before with
        store := before.store.withoutLead key.trimDirectory.asDirectory.text }) := by
  rw [delete, notRoot]
  rcases yields_keysBelow before key.trimDirectory.asDirectory.text limit with
    ⟨value, collected, endless, whole⟩
  cases value with
  | error error =>
      refine ⟨.error error, before, collected.stopping, ?_, by simp⟩
      intro _ _
      exact ⟨endless error rfl, rfl⟩
  | ok keys =>
      have deleted := yields_deleteKeys before (whole keys rfl)
      refine ⟨.ok (), _, collected.reading deleted, by simp, ?_⟩
      intro _
      rfl

/-- Nothing that has been cleared has a child. -/
theorem children_withoutLead (store : Store) (lead : String) :
    (store.withoutLead lead).keys.filterMap (child? lead) = [] := by
  apply List.filterMap_eq_nil_iff.mpr
  intro text member
  rw [Option.eq_none_iff_forall_ne_some]
  intro name child
  have startsNot := (Store.mem_keys_withoutLead.mp member).2
  rw [startsWith_of_child? child] at startsNot
  cases startsNot

end Depot.Directory

namespace Depot.Repository

open Memory Dialogue

variable {Handle : Type} {before after : Watched}

/-- How deleting all keys with a lead can end. Nothing changes unless it succeeds, and it succeeds
if no call fails and there are fewer keys than pages may come. -/
structure Clears (lead : String) (limit : Nat) (before : Watched) (result : Except RepoError Unit)
    (after : Watched) : Prop where
  cleared : result = .ok () → after.store = before.store.withoutLead lead
  unchanged : result ≠ .ok () → after.store = before.store
  fails : after.failures ≠ before.failures → result ≠ .ok ()
  succeeds : after.failures = before.failures → before.store.keys.length < limit → result = .ok ()

theorem objectKey_directoryKey (layout : Namespace) (path : LogicalPath) :
    (layout.directoryKey path).trimDirectory = (Namespace.objectKey path).trimDirectory := by
  cases layout with
  | hierarchical => exact ObjectKey.trimDirectory_asDirectory _
  | flat => exact ObjectKey.trimDirectory_trimDirectory _

/-- The guard keeps every root in the flat namespace, but in the hierarchical one only a root that
is written with one delimiter at most. -/
theorem isRoot_directoryKey {layout : Namespace} {path : LogicalPath} :
    (layout.directoryKey path).isRoot = true ↔
      (Namespace.objectKey path).trimDirectory.text = "" ∧
        (layout = .flat ∨ (Namespace.objectKey path).isRoot = true) := by
  cases layout with
  | flat => simp [Namespace.directoryKey, ObjectKey.isRoot_trimDirectory]
  | hierarchical =>
      have trimmed : (Namespace.objectKey path).isRoot = true →
          (Namespace.objectKey path).trimDirectory.text = "" := by
        intro isRoot
        rw [← ObjectKey.trimDirectory_asDirectory, ObjectKey.asDirectory, if_pos isRoot]
        rfl
      simpa [Namespace.directoryKey] using trimmed

theorem yields_requireClient {repository : Repository Handle}
    (ready : repository.client.isSome = true) :
    Yields (liftM repository.requireClient) before (.ok ()) before := by
  have isReady : repository.requireClient = .ok () := by rw [requireClient, if_pos ready]
  rw [isReady]
  exact Yields.ofExcept _

theorem run_deleteDirectory_root {repository : Repository Handle} {path : LogicalPath}
    {result : Except RepoError Unit} (ready : repository.client.isSome = true)
    (isRoot : (repository.layout.directoryKey path).isRoot = true)
    (run : Run Answered (repository.deleteDirectory path).run before result after) :
    result = .error (.invalidPath "refusing to delete the repository root") ∧ after = before := by
  have isReady : repository.requireClient = .ok () := by rw [requireClient, if_pos ready]
  rw [deleteDirectory, Directory.delete, if_pos isRoot, isReady] at run
  exact Run.throw_iff.mp run

theorem run_deleteDirectory {repository : Repository Handle} {path : LogicalPath}
    {result : Except RepoError Unit} (ready : repository.client.isSome = true)
    (notRoot : (repository.layout.directoryKey path).isRoot = false)
    (run : Run Answered (repository.deleteDirectory path).run before result after) :
    Clears (Namespace.objectKey path).trimDirectory.asDirectory.text repository.pageLimit before
      result after := by
  rcases Directory.yields_delete before repository.pageLimit notRoot with
    ⟨value, next, deleted, endless, clearing⟩
  rw [objectKey_directoryKey] at clearing
  rcases (yields_requireClient ready).reading deleted result after run with
    ⟨rfl, rfl⟩ | ⟨error, rfl, rfl⟩
  · cases result with
    | error error =>
        rcases endless error rfl with ⟨many, rfl⟩
        exact ⟨by simp, fun _ => rfl, fun failed => absurd rfl failed, fun _ few => by omega⟩
    | ok =>
        rw [clearing rfl]
        exact ⟨fun _ => rfl, fun failed => absurd rfl failed, fun failed => absurd rfl failed,
          fun _ _ => rfl⟩
  · exact ⟨by simp, fun _ => rfl, by simp, by simp⟩

theorem yields_listAll {repository : Repository Handle} {path : LogicalPath}
    (ready : repository.client.isSome = true)
    (few : before.store.keys.length < repository.pageLimit) :
    Yields (repository.listAll path) before (.ok (sortedDistinct (before.store.keys.filterMap
      (Directory.child? (Namespace.objectKey path).trimDirectory.asDirectory.text)))) before := by
  rcases Directory.yields_children before repository.pageLimit (Namespace.objectKey path) with
    ⟨value, listed, endless, whole⟩
  cases value with
  | error error =>
      have many := (endless error rfl).2
      omega
  | ok names =>
      rw [← whole names rfl]
      exact (yields_requireClient ready).reading listed

/-- Deleting a directory clears what starts with its trimmed key and a delimiter, and after that it
has no children. A root is refused, except that in the hierarchical namespace a root that is written
with more than one delimiter clears the whole store. -/
theorem deleteDirectory_clears {repository : Repository Handle} {path : LogicalPath}
    {result : Except RepoError Unit} (ready : repository.client.isSome = true)
    (run : Run Answered (repository.deleteDirectory path).run before result after) :
    let key := Namespace.objectKey path
    let trimmed := key.trimDirectory.text
    (trimmed = "" ∧ (repository.layout = .flat ∨ key.isRoot = true) →
      result = .error (.invalidPath "refusing to delete the repository root") ∧ after = before) ∧
    (trimmed ≠ "" → Clears (trimmed ++ "/") repository.pageLimit before result after) ∧
    (trimmed = "" ∧ repository.layout = .hierarchical ∧ key.isRoot = false →
      Clears "" repository.pageLimit before result after ∧
        (result = .ok () → after.store.keys = [])) ∧
    (result = .ok () → before.store.keys.length < repository.pageLimit →
      Yields (repository.listAll path) after (.ok []) after) := by
  intro key trimmed
  have lead : key.trimDirectory.asDirectory.text = if trimmed = "" then "" else trimmed ++ "/" :=
    ObjectKey.text_asDirectory_trimDirectory key
  have clears (unguarded : ¬(repository.layout.directoryKey path).isRoot = true) :
      Clears (if trimmed = "" then "" else trimmed ++ "/") repository.pageLimit before result
        after := by
    rw [← lead]
    exact run_deleteDirectory ready (Bool.eq_false_iff.mpr unguarded) run
  refine ⟨?refused, ?below, ?everything, ?nothingLeft⟩
  case refused =>
    intro isRoot
    exact run_deleteDirectory_root ready (isRoot_directoryKey.mpr isRoot) run
  case below =>
    intro notRoot
    rw [isRoot_directoryKey, if_neg notRoot] at clears
    exact clears fun guarded => notRoot guarded.1
  case everything =>
    intro given
    rcases given with ⟨nothing, hierarchical, notRoot⟩
    rw [isRoot_directoryKey, if_pos nothing] at clears
    have cleared := clears (by simp [hierarchical, key, notRoot])
    refine ⟨cleared, ?_⟩
    intro success
    rw [cleared.cleared success]
    exact Store.keys_withoutLead_empty _
  case nothingLeft =>
    intro success few
    have unguarded : ¬(repository.layout.directoryKey path).isRoot = true := by
      intro guarded
      rw [(run_deleteDirectory_root ready guarded run).1] at success
      cases success
    have left := (clears unguarded).cleared success
    rw [← lead] at left
    have fewer : after.store.keys.length < repository.pageLimit := by
      rw [left]
      exact lt_of_le_of_lt (Store.length_keys_withoutLead_le _ _) few
    have listed : Yields (repository.listAll path) after _ after := yields_listAll ready fewer
    rw [left, Directory.children_withoutLead] at listed
    exact listed

/-! A store with a directory and a file whose name begins like it. -/

private def shelf : Store :=
  ((Store.empty.insert ⟨"a/f"⟩ (.mk #[1])).put ⟨"a/"⟩ .marker).insert ⟨"ab"⟩ (.mk #[2])

private def keeper : Repository Unit := ⟨.hierarchical, 4, 10, .empty, some ()⟩

theorem deleteDirectory_clears_shelf :
    ∃ after, Run Answered (keeper.deleteDirectory (.make .s3 none "/a/")).run (.fresh shelf)
        (.ok ()) after ∧
      after.store = shelf.withoutLead "a/" ∧
      Yields (keeper.listAll (.make .s3 none "/a/")) after (.ok []) after := by
  have run := run_of_store (keeper.deleteDirectory (.make .s3 none "/a/")).run (.fresh shelf)
  have few : shelf.keys.length < keeper.pageLimit := by decide +kernel
  have trimmed : (Namespace.objectKey (.make .s3 none "/a/")).trimDirectory.text = "a" := by
    decide +kernel
  have isReady : keeper.client.isSome = true := rfl
  have whole := deleteDirectory_clears isReady run
  simp only [trimmed] at whole
  have clears := whole.2.1 (by decide +kernel)
  have success := clears.succeeds rfl few
  rw [success] at run
  exact ⟨_, run, clears.cleared success, whole.2.2.2 success few⟩

/-- A root that is written with three delimiters passes the guard, and the whole store is cleared. -/
theorem deleteDirectory_of_delimiters :
    ∃ path after, Namespace.normalize .hierarchical "///" = .ok path ∧
      (Namespace.objectKey path).trimDirectory.text = "" ∧
      Run Answered (keeper.deleteDirectory path).run (.fresh shelf) (.ok ()) after ∧
      after.store.keys = [] ∧ shelf.keys = ["a/", "a/f", "ab"] := by
  have located : Namespace.normalize .hierarchical "///" = .ok (.make .s3 none "///") := by rfl
  have run := run_of_store (keeper.deleteDirectory (.make .s3 none "///")).run (.fresh shelf)
  have notRoot : (keeper.layout.directoryKey (.make .s3 none "///")).isRoot = false := by
    decide +kernel
  have few : shelf.keys.length < keeper.pageLimit := by decide +kernel
  have clears := run_deleteDirectory rfl notRoot run
  have success := clears.succeeds rfl few
  have nothing :
      (Namespace.objectKey (.make .s3 none "///")).trimDirectory.asDirectory.text = "" := by
    decide +kernel
  have cleared := clears.cleared success
  rw [nothing] at cleared
  rw [success] at run
  refine ⟨_, _, located, by decide +kernel, run, ?_, by decide +kernel⟩
  rw [cleared]
  exact Store.keys_withoutLead_empty _

end Depot.Repository
