import Depot.Proofs.Backup
import Depot.Proofs.ByteOrder

/-!
Deleting files of a directory. All names are resolved before the store is asked for anything, so a
name without a key keeps everything. Otherwise one call erases the keys, as a set, and finds those
that are missing in order. In the hierarchical namespace a name cannot lead out of the directory, as
its segments are only put behind those of the path.
-/

namespace Depot.Memory.Store

variable {store : Store} {keys : List ObjectKey} {text : String}

/-! ## Missing keys -/

/-- The texts of the keys among some that nothing is stored at, in order and each once. -/
def absentees (store : Store) (keys : List ObjectKey) : List String :=
  (store.missing (KeySet.ofKeys keys).toKeys).map ObjectKey.text

theorem mem_absentees :
    text ∈ store.absentees keys ↔ ⟨text⟩ ∈ keys ∧ store.find? ⟨text⟩ = none := by
  rw [absentees, List.mem_map]
  constructor
  · rintro ⟨key, member, rfl⟩
    rw [missing, List.mem_filter, mem_toKeys_ofKeys, Option.isNone_iff_eq_none] at member
    exact member
  · intro given
    refine ⟨⟨text⟩, ?_, rfl⟩
    rwa [missing, List.mem_filter, mem_toKeys_ofKeys, Option.isNone_iff_eq_none]

theorem absentees_increasing (store : Store) (keys : List ObjectKey) :
    (store.absentees keys).Pairwise fun left right => Text.bytes left < Text.bytes right := by
  rw [absentees, List.pairwise_map]
  apply List.Pairwise.filter
  rw [KeySet.toKeys, List.pairwise_map]
  exact (SortedMap.keys_increasing _).imp Text.bytes_lt_bytes_iff.mpr

theorem absentees_eq_nil_iff :
    store.absentees keys = [] ↔ ∀ key ∈ keys, (store.find? key).isSome = true := by
  rw [List.eq_nil_iff_forall_not_mem]
  constructor
  · intro none key member
    rw [Option.isSome_iff_ne_none]
    exact fun absent => none key.text (mem_absentees.mpr ⟨member, absent⟩)
  · intro stored text member
    rcases mem_absentees.mp member with ⟨among, absent⟩
    have found := stored _ among
    rw [absent] at found
    cases found

theorem respond_deleteMany (store : Store) (keys : List ObjectKey) :
    store.respond (.deleteMany (KeySet.ofKeys keys)) =
      (if store.absentees keys = [] then .ok ()
        else .error (.notFound (Text.joinStrings ", " (store.absentees keys))),
        store.eraseAll (KeySet.ofKeys keys).toKeys) := by
  simp only [respond, absentees, List.map_eq_nil_iff, List.isEmpty_iff]

end Depot.Memory.Store

namespace Depot.Repository

open Memory

variable {Handle : Type} {repository : Repository Handle} {path : LogicalPath}
  {files : List String} {ignoreMissing : Bool} {keys : List ObjectKey}

/-- In the hierarchical namespace the key of a name lies below the collapsed directory of its path.
-/
theorem keyBelow_beneath {name : String} {key : ObjectKey}
    (hierarchical : repository.layout = .hierarchical)
    (found : repository.keyBelow path name = .ok key) :
    ∃ rest, rest ≠ "" ∧ key.text = (Namespace.objectKey (.make path.scheme path.host
      (Namespace.collapse (path.path ++ "/")))).text ++ rest := by
  have isKey := (keyBelow_eq_ok found).2
  rw [hierarchical] at isKey
  rcases Namespace.toList_of_fileKey_below isKey with ⟨hasSegments, whole⟩
  have proper : ∀ segment ∈ Namespace.segments name.toList,
      Namespace.isProper segment = true ∧ delimiter ∉ segment :=
    fun _ member => Namespace.proper_of_mem_segments member
  refine ⟨String.ofList (Text.join [delimiter] (Namespace.segments name.toList)), ?_, ?_⟩
  · intro nothing
    have noText := congrArg String.toList nothing
    rw [String.toList_ofList] at noText
    have again := Namespace.segments_join proper
    rw [noText] at again
    exact hasSegments again.symm
  · rw [← String.toList_inj, whole, String.toList_append, Namespace.objectKey_toList,
      Namespace.host_make, Namespace.path_make_collapse, String.toList_ofList]

/-! ## Deleting files -/

theorem delete_of_error {error : RepoError}
    (fails : files.mapM (repository.keyBelow path) = .error error) :
    (repository.delete path files ignoreMissing).run = .done (.error error) := by
  rw [delete, fails]
  rfl

/-- The outcome of a deletion, after keys that are not stored have been ignored or not. -/
def settled (ignoreMissing : Bool) : Except RepoError Unit → Except RepoError Unit
  | .error (.notFound missing) => if ignoreMissing then .ok () else .error (.notFound missing)
  | result => result

/-- Once all names are resolved to some keys, there is one call. -/
theorem delete_of_ok (ready : repository.client.isSome = true)
    (isKeys : files.mapM (repository.keyBelow path) = .ok keys) (something : keys ≠ []) :
    (repository.delete path files ignoreMissing).run =
      .ask (.deleteMany (KeySet.ofKeys keys)) fun reply => .done (settled ignoreMissing reply) := by
  have required : repository.requireClient = .ok () := if_pos ready
  have isSome : ¬keys.isEmpty = true := by simpa using something
  rw [delete, isKeys, required]
  change ExceptT.run (if keys.isEmpty = true then _ else _) = _
  rw [if_neg isSome]
  apply congrArg (Dialogue.ask (Call.deleteMany (KeySet.ofKeys keys)))
  funext reply
  cases reply with
  | ok => rfl
  | error error => cases error <;> rfl

theorem run_delete_of_ok (ready : repository.client.isSome = true)
    (isKeys : files.mapM (repository.keyBelow path) = .ok keys) (store : Store) :
    store.run (repository.delete path files ignoreMissing).run =
      (if store.absentees keys = [] ∨ ignoreMissing = true then .ok ()
        else .error (.notFound (Text.joinStrings ", " (store.absentees keys))),
        store.eraseAll (KeySet.ofKeys keys).toKeys) := by
  by_cases nothing : keys = []
  · subst nothing
    have noKeys : (KeySet.ofKeys []).toKeys = [] := by
      apply List.eq_nil_iff_forall_not_mem.mpr
      intro key member
      exact absurd (mem_toKeys_ofKeys.mp member) List.not_mem_nil
    have noneAbsent : store.absentees [] = [] :=
      Store.absentees_eq_nil_iff.mpr (List.forall_mem_nil _)
    rw [delete, isKeys, noKeys, if_pos (.inl noneAbsent)]
    rfl
  · rw [delete_of_ok ready isKeys nothing, Store.run, Dialogue.run_ask, Store.respond_deleteMany,
      Dialogue.run_done]
    by_cases noneAbsent : store.absentees keys = []
    · simp [noneAbsent, settled]
    · cases ignoreMissing <;> simp [noneAbsent, settled]

/-- Deleting files below a path is checked first and exact. If a name has no key, nothing is asked
of the store and the error is that of the first such name. Otherwise exactly the keys of the names
are gone, and it is an error, which names those that were not stored, only if there are such and
they are not to be ignored. In the hierarchical namespace all keys lie below the collapsed directory
of the path. -/
theorem delete_exact (ready : repository.client.isSome = true) (store : Store) :
    (∀ name ∈ files, ∀ error, repository.keyBelow path name = .error error →
      ∃ front first rest cause, files = front ++ first :: rest ∧
        (∀ early ∈ front, ∃ key, repository.keyBelow path early = .ok key) ∧
        repository.keyBelow path first = .error cause ∧
        (repository.delete path files ignoreMissing).run = .done (.error cause)) ∧
    ∀ resolved : String → ObjectKey,
      (∀ name ∈ files, repository.keyBelow path name = .ok (resolved name)) →
      let keys := files.map resolved
      let directory :=
        LogicalPath.make path.scheme path.host (Namespace.collapse (path.path ++ "/"))
      ∃ result after,
        store.run (repository.delete path files ignoreMissing).run = (result, after) ∧
        (∀ key, after.find? key = if key ∈ keys then none else store.find? key) ∧
        after.pageSize = store.pageSize ∧ after.loose = store.loose ∧
        (files = [] ∨ (∀ key ∈ keys, (store.find? key).isSome = true) ∨ ignoreMissing = true →
          result = .ok ()) ∧
        (ignoreMissing = false → (∃ key ∈ keys, store.find? key = none) →
          ∃ absent, result = .error (.notFound (Text.joinStrings ", " absent)) ∧
            absent.Pairwise (fun left right => Text.bytes left < Text.bytes right) ∧
            ∀ text, text ∈ absent ↔ ⟨text⟩ ∈ keys ∧ store.find? ⟨text⟩ = none) ∧
        (repository.layout = .hierarchical → ∀ key ∈ keys, ∃ rest, rest ≠ "" ∧
          key.text = (Namespace.objectKey directory).text ++ rest) := by
  constructor
  · intro name among error fails
    rcases exists_mapM_eq_error among fails with
      ⟨front, first, rest, cause, whole, early, isFirst, failed⟩
    exact ⟨front, first, rest, cause, whole, early, isFirst, delete_of_error failed⟩
  · intro resolved all keys directory
    have isKeys : files.mapM (repository.keyBelow path) = .ok keys := mapM_eq_ok all
    refine ⟨_, _, run_delete_of_ok ready isKeys store, ?_, ?_, ?_, ?_, ?_, ?_⟩
    · intro key
      rw [Store.find?_eraseAll]
      simp only [mem_toKeys_ofKeys]
    · exact Store.pageSize_eraseAll _ _
    · exact Store.loose_eraseAll _ _
    · intro fine
      rw [if_pos]
      rcases fine with noFiles | stored | ignored
      · exact .inl (Store.absentees_eq_nil_iff.mpr (by simp [keys, noFiles]))
      · exact .inl (Store.absentees_eq_nil_iff.mpr stored)
      · exact .inr ignored
    · intro strict absence
      rcases absence with ⟨key, member, absent⟩
      have someAbsent : store.absentees keys ≠ [] :=
        List.ne_nil_of_mem (Store.mem_absentees.mpr ⟨member, absent⟩)
      refine ⟨store.absentees keys, ?_, store.absentees_increasing keys, ?_⟩
      · rw [if_neg (by simp [someAbsent, strict])]
      · exact fun _ => Store.mem_absentees
    · intro hierarchical key member
      rcases List.mem_map.mp member with ⟨name, among, rfl⟩
      exact keyBelow_beneath hierarchical (all name among)

/-! Names in other spellings, names that are repeated and one of dots, below a path that is not
collapsed. -/

private def registry : Store :=
  ["a", "h/a/b/x", "h/a/x"].foldl (fun store text => store.insert ⟨text⟩ .empty) .empty

private def registrar : Repository Unit := ⟨.hierarchical, 4, 10, .empty, some ()⟩

private def ward : LogicalPath := .make .s3 (some "h") "/a//./b"

private def entryOf (name : String) : ObjectKey :=
  ((registrar.keyBelow ward name).toOption).getD .root

theorem delete_exact_registry :
    (∃ cause, (registrar.delete ward ["x", "x/.", ""] true).run = .done (.error cause)) ∧
      ∃ after,
        registry.run (registrar.delete ward ["x", "./x", "..", "s//y", "x"] false).run =
          (.error (.notFound "h/a/b/.., h/a/b/s/y"), after) ∧
        ∀ key, after.find? key =
          if key ∈ [⟨"h/a/b/x"⟩, ⟨"h/a/b/x"⟩, ⟨"h/a/b/.."⟩, ⟨"h/a/b/s/y"⟩, ⟨"h/a/b/x"⟩] then none
          else registry.find? key := by
  have noKey : registrar.keyBelow ward "x/." =
      .error (.invalidPath "path for file can't end with '/': h/a/b/x/") := by decide +kernel
  have resolved : ∀ name ∈ ["x", "./x", "..", "s//y", "x"],
      registrar.keyBelow ward name = .ok (entryOf name) := by decide +kernel
  have keys : ["x", "./x", "..", "s//y", "x"].map entryOf =
      [⟨"h/a/b/x"⟩, ⟨"h/a/b/x"⟩, ⟨"h/a/b/.."⟩, ⟨"h/a/b/s/y"⟩, ⟨"h/a/b/x"⟩] := by decide +kernel
  have ready : registrar.client.isSome = true := rfl
  constructor
  · have among : "x/." ∈ ["x", "x/.", ""] := by simp
    rcases (delete_exact ready registry).1 "x/." among _ noKey with
      ⟨_, _, _, cause, -, -, -, refused⟩
    exact ⟨cause, refused⟩
  · rcases (delete_exact ready registry).2 entryOf resolved with
      ⟨result, after, deleted, gone, -, -, -, -, -⟩
    have isResult : (registry.run
        (registrar.delete ward ["x", "./x", "..", "s//y", "x"] false).run).1 =
          .error (.notFound "h/a/b/.., h/a/b/s/y") := by decide +kernel
    rw [deleted] at isResult
    cases isResult
    rw [keys] at gone
    exact ⟨after, deleted, gone⟩

end Depot.Repository
