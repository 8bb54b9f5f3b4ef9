import Depot.Proofs.Attempts
import Depot.Proofs.Backup
import Depot.Proofs.Deletion
import Depot.Proofs.Upkeep

/-!
Order in a store over whole sessions. Markers are empty, have the form of directories and lie below
markers; files do not have the form of directories. Whatever operations come, and whatever calls
fail with whatever errors, a store in order stays so: the markers of a directory are put with the
outermost first, what is deleted as a directory is deleted with all that lies below, and no file can
take or free the key of a marker.
-/

namespace Depot.Memory

/-- Whether markers and files are where they belong. Only the hierarchical namespace has markers. -/
structure Store.Orderly (layout : Namespace) (store : Store) : Prop where
  markers : ∀ {key object}, store.find? key = some object → object.isDirectory = true →
    layout = .hierarchical ∧ object = .marker ∧ key.isDirectoryForm = true ∧ key.text ≠ "/"
  files : ∀ {key object}, store.find? key = some object → object.isDirectory = false →
    key.text ≠ "" ∧ key.isDirectoryForm = false
  closed : ∀ {key above}, store.find? key = some .marker → key.parent? = some above →
    above.text ≠ "/" → store.find? above = some .marker

namespace Store.Orderly

variable {layout : Namespace} {store : Store} {key : ObjectKey}

theorem of_no_keys (nothing : store.keys = []) : store.Orderly layout := by
  have absent (key : ObjectKey) (object : StoredObject) : store.find? key ≠ some object := by
    intro stored
    have member : key.text ∈ store.keys := Store.mem_keys_iff.mpr ⟨object, stored⟩
    rw [nothing] at member
    cases member
  exact ⟨fun stored => (absent _ _ stored).elim, fun stored => (absent _ _ stored).elim,
    fun stored => (absent _ _ stored).elim⟩

/-- What is stored where a directory can be is a marker. -/
theorem eq_marker {object : StoredObject} (orderly : store.Orderly layout)
    (stored : store.find? key = some object) (isDirectory : key.isDirectoryForm = true) :
    object = .marker := by
  cases kind : object.isDirectory with
  | true => exact (orderly.markers stored kind).2.1
  | false =>
      rw [(orderly.files stored kind).2] at isDirectory
      cases isDirectory

/-- All directories around a marker have markers, but for a root. -/
theorem marker_of_mem_ancestors (orderly : store.Orderly layout)
    (marked : store.find? key = some .marker) {above : ObjectKey} (member : above ∈ key.ancestors)
    (notSlash : above.text ≠ "/") : store.find? above = some .marker := by
  induction key using ObjectKey.upwards with
  | step key induction =>
      cases parent : key.parent? with
      | none => simp [ObjectKey.ancestors_eq, parent] at member
      | some next =>
          rw [ObjectKey.ancestors_of_parent? parent] at member
          by_cases isSlash : next.text = "/"
          -- The chain ends at the slash, which needs no marker and has nothing around it.
          · have isRoot := ObjectKey.isRoot_iff.mpr (.inr isSlash)
            rw [ObjectKey.ancestors_of_isRoot isRoot, List.mem_singleton] at member
            subst member
            exact absurd isSlash notSlash
          · have marked := orderly.closed marked parent isSlash
            rcases List.mem_cons.mp member with rfl | member
            · exact marked
            · exact induction next parent marked member

/-! ## What keeps the order -/

theorem put_marker (orderly : store.Orderly .hierarchical)
    (isDirectory : key.isDirectoryForm = true) (notSlash : key.text ≠ "/")
    (below : ∀ above, key.parent? = some above → above.text ≠ "/" →
      store.find? above = some .marker) :
    (store.put key .marker).Orderly .hierarchical where
  markers := by
    intro sought object stored kind
    rw [find?_put] at stored
    split at stored
    · next same =>
      subst same
      cases stored
      exact ⟨rfl, rfl, isDirectory, notSlash⟩
    · exact orderly.markers stored kind
  files := by
    intro sought object stored kind
    rw [find?_put] at stored
    split at stored
    · cases stored
      cases kind
    · exact orderly.files stored kind
  closed := by
    intro sought above stored parent aboveNotSlash
    rw [find?_put] at stored ⊢
    split
    · rfl
    · split at stored
      · next same =>
        subst same
        exact below above parent aboveNotSlash
      · exact orderly.closed stored parent aboveNotSlash

/-- A file takes no key of a marker. -/
theorem insert (orderly : store.Orderly layout) (notRoot : key.isRoot = false)
    (isFile : key.isDirectoryForm = false) (data : ByteArray) :
    (store.insert key data).Orderly layout where
  markers := by
    intro sought object stored kind
    rw [Store.insert, find?_put] at stored
    split at stored
    · cases stored
      cases kind
    · exact orderly.markers stored kind
  files := by
    intro sought object stored kind
    rw [Store.insert, find?_put] at stored
    split at stored
    · next same =>
      subst same
      refine ⟨?_, isFile⟩
      intro nothing
      rw [ObjectKey.isRoot_iff.mpr (.inl nothing)] at notRoot
      cases notRoot
    · exact orderly.files stored kind
  closed := by
    intro sought above stored parent aboveNotSlash
    rw [Store.insert, find?_put] at stored ⊢
    split at stored
    · cases stored
    -- The file cannot replace the marker above, since their keys differ in form.
    · have marked := orderly.closed stored parent aboveNotSlash
      have different : key ≠ above :=
        ObjectKey.ne_of_isDirectoryForm isFile (orderly.markers marked rfl).2.2.1
      rw [if_neg different, marked]

/-- A store in order stays so if objects go, but only with all that lies below them. -/
theorem of_erased {after : Store} (orderly : store.Orderly layout) (gone : ObjectKey → Prop)
    (same : ∀ key, ¬gone key → after.find? key = store.find? key)
    (absent : ∀ key, gone key → after.find? key = none)
    (below : ∀ key above, store.find? key = some .marker → key.parent? = some above → gone above →
      gone key) :
    after.Orderly layout := by
  have still {key : ObjectKey} {object : StoredObject} (stored : after.find? key = some object) :
      ¬gone key ∧ store.find? key = some object := by
    have stays : ¬gone key := by
      intro isGone
      rw [absent key isGone] at stored
      cases stored
    exact ⟨stays, (same key stays).symm.trans stored⟩
  constructor
  · intro key object stored
    exact orderly.markers (still stored).2
  · intro key object stored
    exact orderly.files (still stored).2
  · intro key above stored parent notSlash
    rcases still stored with ⟨stays, before⟩
    rw [same above fun isGone => stays (below key above before parent isGone)]
    exact orderly.closed before parent notSlash

/-- No marker lies below a file, and no file is a marker. -/
theorem eraseAll {keys : List ObjectKey} (orderly : store.Orderly layout)
    (areFiles : ∀ key ∈ keys, key.isDirectoryForm = false) :
    (store.eraseAll keys).Orderly layout := by
  apply orderly.of_erased (· ∈ keys) (fun key notAmong => by rw [find?_eraseAll, if_neg notAmong])
    (fun key among => by rw [find?_eraseAll, if_pos among])
  intro key above _ parent among
  have isDirectory := (ObjectKey.encloses_of_parent? parent).1
  rw [areFiles above among] at isDirectory
  cases isDirectory

theorem withoutLead (orderly : store.Orderly layout) (lead : String) :
    (store.withoutLead lead).Orderly layout := by
  apply orderly.of_erased (fun key => Text.startsWith lead.toList key.text.toList = true)
    (fun key startsNot => by rw [find?_withoutLead, if_neg startsNot])
    (fun key starts => by rw [find?_withoutLead, if_pos starts])
  intro key above _ parent starts
  rcases ObjectKey.encloses_of_parent? parent with ⟨-, rest, -, isBelow⟩
  rcases Text.startsWith_iff.mp starts with ⟨middle, isAbove⟩
  apply Text.startsWith_iff.mpr
  exact ⟨middle ++ rest, by rw [isBelow, isAbove, List.append_assoc]⟩

end Store.Orderly

end Depot.Memory

namespace Depot.Directory

open Memory Dialogue

/-! ## Making directories -/

/-- Making directories keeps the order. A directory is settled if it is a root or has a marker. -/
def ordering : Upkeep (.alone Tried) where
  invariant := Store.Orderly .hierarchical
  isNear key := key.isDirectoryForm = true
  isFree key := key.isDirectoryForm = true ∧ key.isRoot = false
  isSettled key store := key.isRoot = true ∨ store.find? key = some .marker
  canFail := True
  stays := .alone _
  settledStays _ := .alone _
  root := .inl
  head := by
    intro key before reply after orderly isDirectory notRoot tried
    cases tried with
    | served =>
        refine ⟨trivial, orderly, ?_, fun _ _ => ⟨isDirectory, notRoot⟩, fun _ _ => .inr trivial⟩
        intro found isFound
        cases stored : before.find? key with
        | none => simp [Store.respond, Store.look, stored, Except.map] at isFound
        | some object =>
            rw [orderly.eq_marker stored isDirectory] at stored
            exact .inr stored
    | refused =>
        refine ⟨trivial, orderly, ?_, fun _ _ => ⟨isDirectory, notRoot⟩, fun _ _ => .inr trivial⟩
        intro found isFound
        cases isFound
  up := fun _ parent => (ObjectKey.encloses_of_parent? parent).1
  put := by
    intro key before reply after orderly isFree settled tried
    cases tried with
    | served =>
        refine ⟨trivial, orderly.put_marker isFree.1 ?_ ?_, fun _ => .inr (Store.find?_put_self _),
          fun _ _ => trivial⟩
        · intro isSlash
          rw [ObjectKey.isRoot_iff.mpr (.inr isSlash)] at isFree
          cases isFree.2
        · intro above parent notSlash
          apply (settled above parent).resolve_left
          intro isRoot
          exact notSlash (ObjectKey.text_of_isRoot isRoot (ObjectKey.encloses_of_parent? parent).1)
    | refused =>
        refine ⟨trivial, orderly, ?_, fun _ _ => trivial⟩
        intro isDone
        cases isDone

end Depot.Directory

namespace Depot.Memory

open Dialogue

/-- Whether a task keeps a store in order, whatever calls fail. -/
def KeepsOrder (layout : Namespace) {Result : Type} (dialogue : StoreDialogue Result) : Prop :=
  ∀ ⦃before result after⦄, Run Tried dialogue before result after →
    before.Orderly layout → after.Orderly layout

namespace KeepsOrder

variable {layout : Namespace} {Result Next : Type} {dialogue : StoreDialogue Result}

theorem of_looks (asks : dialogue.Asks Call.Looks) : KeepsOrder layout dialogue := by
  intro before result after run orderly
  rw [run_of_looks asks run]
  exact orderly

theorem of_plain (asks : dialogue.Asks Call.IsPlain)
    (keeps : ∀ {before result after}, Run Answered dialogue before result after →
      before.store.Orderly layout → after.store.Orderly layout) :
    KeepsOrder layout dialogue := by
  intro before result after run orderly
  rcases run_of_plain asks run with ⟨last, answered, rfl⟩
  exact keeps answered orderly

theorem andThen {next : Result → StoreDialogue Next} (first : KeepsOrder layout dialogue)
    (second : ∀ result, KeepsOrder layout (next result)) :
    KeepsOrder layout (dialogue.andThen next) := by
  intro before result after run orderly
  rcases Run.andThen_iff.mp run with ⟨value, middle, start, rest⟩
  exact second value rest (first start orderly)

theorem bind {first : StoreTask Result} {second : Result → StoreTask Next}
    (start : KeepsOrder layout first.run) (rest : ∀ value, KeepsOrder layout (second value).run) :
    KeepsOrder layout (first >>= second).run := by
  rw [run_bind]
  apply start.andThen
  intro result
  cases result with
  | ok value => exact rest value
  | error error => exact of_looks trivial

/-- What follows a value or error that is there already needs to keep the order only for that
value. -/
theorem bindExcept {value : Except RepoError Result} {next : Result → StoreTask Next}
    (rest : ∀ found, value = .ok found → KeepsOrder layout (next found).run) :
    KeepsOrder layout ((liftM value : StoreTask Result) >>= next).run := by
  cases value with
  | ok found => exact rest found rfl
  | error error => exact of_looks trivial

end KeepsOrder

end Depot.Memory

namespace Depot.Directory

open Memory Dialogue

theorem outline_create_hierarchical (key : ObjectKey) :
    Outline (.alone Tried) (Store.Orderly .hierarchical) (create .hierarchical key).run
      (ordering.Ends fun _ => ordering.isSettled key.asDirectory) := by
  apply ordering.outline_create
  cases isRoot : key.asDirectory.isRoot with
  | true => exact .inl rfl
  | false => exact .inr (ObjectKey.isDirectoryForm_asDirectory isRoot)

theorem create_keepsOrder (layout : Namespace) (key : ObjectKey) :
    KeepsOrder layout (create layout key).run := by
  cases layout with
  | flat => exact KeepsOrder.of_looks trivial
  | hierarchical =>
      intro before result after run orderly
      exact ordering.invariant_of_ends ((outline_create_hierarchical key).run run orderly)

end Depot.Directory

namespace Depot.Repository

open Memory Dialogue

variable {Handle : Type} {repository : Repository Handle} {path : LogicalPath}
  {before after : Watched}

/-! ## Each operation -/

theorem run_deleteDirectory_erases {result : Except RepoError Unit}
    (run : Run Answered (repository.deleteDirectory path).run before result after) :
    after.store = before.store ∨ ∃ lead, after.store = before.store.withoutLead lead := by
  rcases Run.bindExcept_iff.mp run with ⟨error, -, -, rfl⟩ | ⟨_, -, rest⟩
  · exact .inl rfl
  by_cases isRoot : (repository.layout.directoryKey path).isRoot = true
  · rw [Directory.delete, if_pos isRoot] at rest
    rw [(Run.throw_iff.mp rest).2]
    exact .inl rfl
  rcases Directory.yields_delete before repository.pageLimit (Bool.eq_false_iff.mpr isRoot) with
    ⟨value, next, deleted, endless, clearing⟩
  rcases deleted _ _ rest with ⟨rfl, rfl⟩ | ⟨error, rfl, rfl⟩
  · cases result with
    | error error =>
        rw [(endless error rfl).2]
        exact .inl rfl
    | ok =>
        rw [clearing rfl]
        exact .inr ⟨_, rfl⟩
  · exact .inl rfl

/-- Deleting files erases keys of files, all or none. -/
theorem run_delete {files : List String} {ignoreMissing : Bool} {result : Except RepoError Unit}
    (run : Run Answered (repository.delete path files ignoreMissing).run before result after) :
    after.store = before.store ∨ ∃ keys : List ObjectKey,
      (∀ key ∈ keys, key.isDirectoryForm = false) ∧
        after.store = before.store.eraseAll keys := by
  rcases Run.bindExcept_iff.mp run with ⟨error, -, -, rfl⟩ | ⟨keys, isKeys, rest⟩
  · exact .inl rfl
  split at rest
  · rw [(Run.pure_iff.mp rest).2]
    exact .inl rfl
  rcases Run.bindExcept_iff.mp rest with ⟨error, -, -, rfl⟩ | ⟨_, -, deleting⟩
  · exact .inl rfl
  rcases Run.andThen_iff.mp deleting with ⟨deleted, final, asked, ending⟩
  have isFinal : after = final := by
    split at ending
    · split at ending <;> exact (Run.done_iff.mp ending).2
    · exact (Run.done_iff.mp ending).2
  subst isFinal
  rcases Yields.deleteMany _ _ _ asked with ⟨-, rfl⟩ | ⟨error, -, rfl⟩
  · refine .inr ⟨_, ?_, rfl⟩
    intro key member
    rcases exists_of_mem_mapM isKeys (mem_toKeys_ofKeys.mp member) with ⟨file, -, found⟩
    exact (keyBelow_isFile found).2
  · exact .inl rfl

theorem run_writeChunks {upload written : Upload} {chunks : List ByteArray}
    (run : Run Answered (writeChunks upload chunks) before written after) :
    after.store = before.store ∧ written.key = upload.key := by
  induction chunks generalizing upload before with
  | nil =>
      rcases Run.done_iff.mp run with ⟨rfl, rfl⟩
      exact ⟨rfl, rfl⟩
  | cons chunk chunks induction =>
      rcases Run.ask_iff.mp run with ⟨reply, middle, asked, rest⟩
      rcases induction rest with ⟨unchanged, sameKey⟩
      rcases asked.write with ⟨rfl, rfl⟩ | ⟨error, rfl, rfl⟩
      · exact ⟨unchanged, sameKey⟩
      · exact ⟨unchanged, sameKey⟩

theorem run_createOutput {result : Except RepoError Upload}
    (run : Run Answered (repository.createOutput path).run before result after) :
    after.store = before.store ∧
      ∀ upload, result = .ok upload → Namespace.fileKey path = .ok upload.key := by
  rcases Run.bindExcept_iff.mp run with ⟨error, -, rfl, rfl⟩ | ⟨key, isKey, rest⟩
  · exact ⟨rfl, fun _ isOk => nomatch isOk⟩
  rcases Run.bindExcept_iff.mp rest with ⟨error, -, rfl, rfl⟩ | ⟨_, -, opening⟩
  · exact ⟨rfl, fun _ isOk => nomatch isOk⟩
  rcases Yields.openWrite _ _ _ opening with ⟨rfl, rfl⟩ | ⟨error, rfl, rfl⟩
  · refine ⟨rfl, ?_⟩
    intro upload same
    cases same
    exact isKey
  · exact ⟨rfl, fun _ isOk => nomatch isOk⟩

/-- Writing a file stores it as a whole or not at all. -/
theorem run_output {chunks : List ByteArray} {ending : Ending} {result : Except RepoError Unit}
    (run : Run Answered (repository.output path chunks ending).run before result after) :
    after.store = before.store ∨ ∃ key data, Namespace.fileKey path = .ok key ∧
      after.store = before.store.insert key data := by
  rcases Run.bind_iff.mp run with ⟨error, opening, -⟩ | ⟨upload, middle, opening, rest⟩
  · exact .inl (run_createOutput opening).1
  rcases run_createOutput opening with ⟨unchanged, isKey⟩
  rcases Run.bind_iff.mp rest with ⟨error, writing, -⟩ | ⟨written, last, writing, finishing⟩
  · rcases Run.lift_iff.mp writing with ⟨value, isOk, -⟩
    cases isOk
  rcases Run.lift_iff.mp writing with ⟨value, isOk, writing⟩
  cases isOk
  rcases run_writeChunks writing with ⟨same, sameKey⟩
  rw [unchanged] at same
  cases ending with
  | finish =>
      rcases Yields.finish _ _ _ finishing with ⟨-, rfl⟩ | ⟨error, -, rfl⟩
      · refine .inr ⟨written.key, written.pending, ?_, by rw [← same]⟩
        rw [sameKey]
        exact isKey upload rfl
      · exact .inl same
  | abort =>
      rcases Run.lift_iff.mp finishing with ⟨_, -, aborting⟩
      rw [(Run.question_iff.mp aborting).abort]
      exact .inl same
  | drop =>
      rw [(Run.pure_iff.mp finishing).2]
      exact .inl same

theorem createDirectory_keepsOrder :
    KeepsOrder repository.layout (repository.createDirectory path).run :=
  .bindExcept fun _ _ => Directory.create_keepsOrder _ _

theorem createUri_keepsOrder {location : String} :
    KeepsOrder repository.layout (repository.createUri location).run := by
  apply KeepsOrder.bindExcept
  intro path _
  have ensure : KeepsOrder repository.layout (do
      if !(← repository.exists? path) then
        repository.createDirectory path : StoreTask Unit).run := by
    apply (KeepsOrder.of_looks asks_exists?).bind
    intro found
    cases found with
    | true => exact KeepsOrder.of_looks trivial
    | false => exact createDirectory_keepsOrder
  exact ensure.andThen fun _ => KeepsOrder.of_looks trivial

theorem intoStore_keepsOrder {layout : Namespace} {chunkSize footerLength : Nat}
    {input : IndexInput} {key : ObjectKey}
    (isFile : key.isRoot = false ∧ key.isDirectoryForm = false) :
    KeepsOrder layout (Transfer.intoStore chunkSize input footerLength key).run := by
  apply KeepsOrder.of_plain Transfer.asks_intoStore
  intro before result after run orderly
  rcases Transfer.run_intoStore run with ⟨failed, stored⟩
  cases result with
  | error error =>
      rw [failed error rfl]
      exact orderly
  | ok size =>
      rw [(stored size rfl).2.2]
      exact orderly.insert isFile.1 isFile.2 _

theorem createParent_keepsOrder (layout : Namespace) (key : ObjectKey) :
    KeepsOrder layout (createParent layout key).run := by
  rw [createParent]
  split
  · exact KeepsOrder.of_looks trivial
  · exact Directory.create_keepsOrder _ _

theorem copyFrom_keepsOrder {source : IndexSource} {sourceName targetName : String}
    {target : LogicalPath} :
    KeepsOrder repository.layout
      (repository.copyFrom source sourceName target targetName).run := by
  apply KeepsOrder.bindExcept
  rintro ⟨key, input⟩ prepared
  rcases prepare_eq_ok prepared with ⟨-, found, -, -, -⟩
  apply (createParent_keepsOrder _ _).bind
  intro _
  apply (intoStore_keepsOrder (keyBelow_isFile found)).bind
  intro _
  exact KeepsOrder.of_looks trivial

theorem perform_keepsOrder (repository : Repository Handle) (operation : Operation) :
    KeepsOrder repository.layout (repository.perform operation).run := by
  cases operation with
  | createUri location => exact createUri_keepsOrder.bind fun _ => KeepsOrder.of_looks trivial
  | pathExists path =>
      exact (KeepsOrder.of_looks asks_exists?).bind fun _ => KeepsOrder.of_looks trivial
  | createDirectory path => exact createDirectory_keepsOrder
  | deleteDirectory path =>
      apply KeepsOrder.of_plain asks_deleteDirectory
      intro before result after run orderly
      rcases run_deleteDirectory_erases run with same | ⟨lead, erased⟩
      · rw [same]
        exact orderly
      · rw [erased]
        exact orderly.withoutLead lead
  | listAll path =>
      exact (KeepsOrder.of_looks asks_listAll).bind fun _ => KeepsOrder.of_looks trivial
  | pathType path =>
      exact (KeepsOrder.of_looks asks_pathType).bind fun _ => KeepsOrder.of_looks trivial
  | delete path files ignoreMissing =>
      apply KeepsOrder.of_plain asks_delete
      intro before result after run orderly
      rcases run_delete run with same | ⟨keys, areFiles, erased⟩
      · rw [same]
        exact orderly
      · rw [erased]
        exact orderly.eraseAll areFiles
  | openInput path file =>
      exact (KeepsOrder.of_looks asks_openInput).bind fun _ => KeepsOrder.of_looks trivial
  | output path chunks ending =>
      apply KeepsOrder.of_plain asks_output
      intro before result after run orderly
      rcases run_output run with same | ⟨key, data, isKey, stored⟩
      · rw [same]
        exact orderly
      · rcases Namespace.objectKey_of_fileKey isKey with ⟨-, notRoot, isFile⟩
        rw [stored]
        exact orderly.insert notRoot isFile data
  | copyFrom source sourceName target targetName => exact copyFrom_keepsOrder
  | copyIndexFileTo source sourceName tree directory targetName =>
      exact (KeepsOrder.of_looks asks_copyIndexFileTo).andThen fun _ => KeepsOrder.of_looks trivial
  | copyFileTo source file tree directory =>
      exact (KeepsOrder.of_looks asks_copyFileTo).andThen fun _ => KeepsOrder.of_looks trivial

theorem performAll_keepsOrder (repository : Repository Handle) (operations : List Operation) :
    KeepsOrder repository.layout (repository.performAll operations) := by
  induction operations with
  | nil => exact KeepsOrder.of_looks trivial
  | cons operation operations induction =>
      apply (perform_keepsOrder repository operation).andThen
      intro outcome
      exact induction.andThen fun outcomes => KeepsOrder.of_looks trivial

/-! ## Sessions -/

/-- Making the directory of a key leaves markers at all directories around the key. -/
theorem run_createParent_marks {key : ObjectKey} {before after : Store}
    (orderly : before.Orderly .hierarchical)
    (run : Run Tried (createParent .hierarchical key).run before (.ok ()) after) :
    after.Orderly .hierarchical ∧
      ∀ above ∈ key.ancestors, above.text ≠ "/" → after.find? above = some .marker := by
  cases parent : key.parent? with
  | none =>
      rw [createParent, parent] at run
      rw [(Run.pure_iff.mp run).2, ObjectKey.ancestors_eq, parent]
      exact ⟨orderly, by simp⟩
  | some next =>
      rw [createParent, parent] at run
      rcases (Directory.outline_create_hierarchical next).run run orderly with ⟨still, settled⟩
      refine ⟨still, ?_⟩
      intro above member notSlash
      have isDirectory := (ObjectKey.encloses_of_parent? parent).1
      rw [ObjectKey.ancestors_of_parent? parent] at member
      cases isRoot : next.isRoot with
      | true =>
          rw [ObjectKey.ancestors_of_isRoot isRoot, List.mem_singleton] at member
          subst member
          exact absurd (ObjectKey.text_of_isRoot isRoot isDirectory) notSlash
      | false =>
          rw [ObjectKey.asDirectory_of_isDirectoryForm isRoot isDirectory] at settled
          have marked : after.find? next = some .marker := settled.resolve_left (by simp [isRoot])
          rcases List.mem_cons.mp member with rfl | member
          · exact marked
          · exact still.marker_of_mem_ancestors marked member notSlash

/-- After a backup into a store in order, all directories around the file have markers. -/
theorem run_copyFrom_marks {source : IndexSource} {sourceName targetName : String}
    {target : LogicalPath} {before after : Store} (hierarchical : repository.layout = .hierarchical)
    (orderly : before.Orderly .hierarchical)
    (run : Run Tried (repository.copyFrom source sourceName target targetName).run before (.ok ())
      after) :
    ∃ key, repository.keyBelow target targetName = .ok key ∧
      ∀ above ∈ key.ancestors, above.text ≠ "/" → after.find? above = some .marker := by
  rcases Run.bindExcept_iff.mp run with ⟨error, -, failed, -⟩ | ⟨⟨key, input⟩, prepared, rest⟩
  · cases failed
  rcases prepare_eq_ok prepared with ⟨-, found, -, -, -⟩
  rcases Run.bind_iff.mp rest with ⟨error, -, failed⟩ | ⟨_, middle, parents, uploading⟩
  · cases failed
  rcases Run.bind_iff.mp uploading with ⟨error, -, failed⟩ | ⟨size, last, upload, ending⟩
  · cases failed
  rcases Run.pure_iff.mp ending with ⟨-, rfl⟩
  refine ⟨key, found, ?_⟩
  intro above member notSlash
  rw [hierarchical] at parents
  have marked := (run_createParent_marks orderly parents).2 above member notSlash
  rcases run_of_plain Transfer.asks_intoStore upload with ⟨watched, uploaded, rfl⟩
  -- The file does not take the key of a directory.
  have different : key ≠ above :=
    ObjectKey.ne_of_isDirectoryForm (keyBelow_isFile found).2
      (ObjectKey.encloses_of_mem_ancestors member).1
  rw [((Transfer.run_intoStore uploaded).2 size rfl).2.2, Store.insert,
    Store.find?_put_of_ne _ different]
  exact marked

/-- Whatever operations come and whatever calls fail, a store that was empty at first is in order:
markers are empty, have the form of directories and lie below markers, and files do not have the
form of directories. A backup that then succeeds has markers at all directories around its file. The
flat namespace never has markers. -/
theorem performAll_orderly (repository : Repository Handle) {operations : List Operation}
    {outcomes : List (Except RepoError Unit)} {start after : Store} (empty : start.keys = [])
    (run : Run Tried (repository.performAll operations) start outcomes after) :
    after.Orderly repository.layout ∧
      (repository.layout = .hierarchical → ∀ source sourceName target targetName last,
        Run Tried (repository.copyFrom source sourceName target targetName).run after (.ok ())
          last →
        ∃ key, repository.keyBelow target targetName = .ok key ∧
          ∀ above ∈ key.ancestors, above.text ≠ "/" → last.find? above = some .marker) ∧
      (repository.layout = .flat → ∀ key object, after.find? key = some object →
        object.isDirectory = false) := by
  have orderly := performAll_keepsOrder repository operations run (.of_no_keys empty)
  refine ⟨orderly, ?_, ?_⟩
  · intro hierarchical source sourceName target targetName last copied
    rw [hierarchical] at orderly
    exact run_copyFrom_marks hierarchical orderly copied
  · intro flat key object stored
    cases kind : object.isDirectory with
    | false => rfl
    | true =>
        have layout := (orderly.markers stored kind).1
        rw [flat] at layout
        cases layout

/-! A session in which the second marker fails, and later a directory that has a marker is said to
have none. A file is stored below the directory whose marker failed, and a backup makes up for it.
-/

private def unlucky : List Fault :=
  [⟨.putMarker, none, some 2, .transport "reset", 0, 0⟩,
    ⟨.head, some "a/", some 2, .notFound "a/", 0, 0⟩]

private def hourly : List Operation :=
  [.createDirectory (.make .s3 none "/a/b/"), .output (.make .s3 none "/a/b/f") [.mk #[1]] .finish,
    .createDirectory (.make .s3 none "/a/c/"), .deleteDirectory (.make .s3 none "/a/c/")]

private def chest : Repository Unit := ⟨.hierarchical, 4, 10, .empty, some ()⟩

private def notes : IndexSource where
  openInput name := .ok ⟨name, 22, Reader.ofBytes (Footer.sealed "body 1".toUTF8)⟩
  footerLength := 16

theorem performAll_orderly_unlucky :
    ∃ outcomes after last,
      Run Tried (chest.performAll hourly) Store.empty outcomes after ∧
      outcomes.map succeeded = [false, true, true, true] ∧ after.keys = ["a/", "a/b/f"] ∧
      after.Orderly .hierarchical ∧
      Run Tried (chest.copyFrom notes "f" (.make .s3 none "/a/b") "g").run after (.ok ()) last ∧
      last.find? ⟨"a/b/"⟩ = some .marker := by
  have empty : Store.empty.keys = [] := by decide +kernel
  have session := tried_of_interpose unlucky (chest.performAll hourly) Store.empty
  have copied := tried_of_interpose [] (chest.copyFrom notes "f" (.make .s3 none "/a/b") "g").run
    ((chest.performAll hourly).run (Fault.interpose Store.respond) (unlucky, Store.empty)).2.2
  have success : ((chest.copyFrom notes "f" (.make .s3 none "/a/b") "g").run.run
      (Fault.interpose Store.respond) ([], ((chest.performAll hourly).run
        (Fault.interpose Store.respond) (unlucky, Store.empty)).2.2)).1 = .ok () := by
    decide +kernel
  rw [success] at copied
  rcases performAll_orderly chest empty session with ⟨orderly, marks, -⟩
  rcases marks rfl _ _ _ _ _ copied with ⟨key, found, marked⟩
  have isKey : chest.keyBelow (.make .s3 none "/a/b") "g" = .ok ⟨"a/b/g"⟩ := by decide +kernel
  cases isKey.symm.trans found
  refine ⟨_, _, _, session, by decide +kernel, by decide +kernel, orderly, copied, ?_⟩
  exact marked _ (by decide +kernel) (by decide)

end Depot.Repository
