import Depot.Proofs.Sessions

/-!
Files below markers. A backup makes the directories around its file first, so all of them have
markers when the file comes; and markers go only with all that lies below them. So in a session in
which no file is written past the directories, everything that is stored lies below markers, whatever
calls fail.
-/

namespace Depot

/-- Calls that only look, or put a marker. -/
def Call.Marks : Call → Prop
  | .putMarker _ => True
  | call => call.Looks

theorem Call.Looks.marks {call : Call} (looks : call.Looks) : call.Marks := by
  cases call <;> trivial

/-- Whether an operation writes a file without a look at the directories around it. -/
def Operation.IsOutput : Operation → Prop
  | .output _ _ _ => True
  | _ => False

end Depot

namespace Depot.Memory

open Dialogue

/-- Whether a store is in order, and the directories around its files have markers as well. -/
structure Store.Enclosed (store : Store) : Prop where
  orderly : store.Orderly .hierarchical
  files : ∀ {key object above}, store.find? key = some object → object.isDirectory = false →
    key.parent? = some above → above.text ≠ "/" → store.find? above = some .marker

namespace Store.Enclosed

variable {store after : Store} {key : ObjectKey}

theorem of_no_keys (nothing : store.keys = []) : store.Enclosed where
  orderly := .of_no_keys nothing
  files := by
    intro key object above stored
    have member : key.text ∈ store.keys := Store.mem_keys_iff.mpr ⟨object, stored⟩
    rw [nothing] at member
    cases member

/-- The directory around anything that is stored has a marker, unless it is the slash. -/
theorem closed {object : StoredObject} {above : ObjectKey} (enclosed : store.Enclosed)
    (stored : store.find? key = some object) (parent : key.parent? = some above)
    (notSlash : above.text ≠ "/") : store.find? above = some .marker := by
  cases kind : object.isDirectory with
  | true =>
      rw [(enclosed.orderly.markers stored kind).2.1] at stored
      exact enclosed.orderly.closed stored parent notSlash
  | false => exact enclosed.files stored kind parent notSlash

/-- All directories around what is stored have markers, but for a root. -/
theorem marker_of_mem_ancestors {object : StoredObject} {above : ObjectKey}
    (enclosed : store.Enclosed) (stored : store.find? key = some object)
    (member : above ∈ key.ancestors) (notSlash : above.text ≠ "/") :
    store.find? above = some .marker := by
  cases parent : key.parent? with
  | none => simp [ObjectKey.ancestors_eq, parent] at member
  | some next =>
      rw [ObjectKey.ancestors_of_parent? parent, List.mem_cons] at member
      by_cases isSlash : next.text = "/"
      · rw [ObjectKey.ancestors_of_isRoot (ObjectKey.isRoot_iff.mpr (.inr isSlash))] at member
        rcases member with rfl | member
        · exact absurd isSlash notSlash
        · cases member
      · have marked := enclosed.closed stored parent isSlash
        rcases member with rfl | member
        · exact marked
        · exact enclosed.orderly.marker_of_mem_ancestors marked member notSlash

/-! ## What keeps files below markers -/

/-- New markers take none away. -/
theorem of_marked (enclosed : store.Enclosed) (orderly : after.Orderly .hierarchical)
    (marked : ∀ key, after.find? key = store.find? key ∨ after.find? key = some .marker) :
    after.Enclosed where
  orderly := orderly
  files := by
    intro key object above stored isFile parent notSlash
    have before : store.find? key = some object := by
      rcases marked key with same | isMarker
      · rw [← same, stored]
      · rw [isMarker] at stored
        cases stored
        cases isFile
    have around := enclosed.files before isFile parent notSlash
    rcases marked above with same | isMarker
    · rw [same, around]
    · exact isMarker

theorem insert (enclosed : store.Enclosed) (notRoot : key.isRoot = false)
    (isFile : key.isDirectoryForm = false)
    (around : ∀ above, key.parent? = some above → above.text ≠ "/" →
      store.find? above = some .marker) (data : ByteArray) :
    (store.insert key data).Enclosed where
  orderly := enclosed.orderly.insert notRoot isFile data
  files := by
    intro sought object above stored kind parent notSlash
    have isDirectory := (ObjectKey.encloses_of_parent? parent).1
    rw [Store.insert, find?_put] at stored
    rw [Store.insert, find?_put_of_ne _ (ObjectKey.ne_of_isDirectoryForm isFile isDirectory)]
    split at stored
    · next same =>
      subst same
      exact around above parent notSlash
    · exact enclosed.files stored kind parent notSlash

/-- Files stay below markers if markers go only with all that lies below them. -/
theorem of_erased (enclosed : store.Enclosed) (orderly : after.Orderly .hierarchical)
    (gone : ObjectKey → Prop) (same : ∀ key, ¬gone key → after.find? key = store.find? key)
    (absent : ∀ key, gone key → after.find? key = none)
    (below : ∀ key above, key.parent? = some above → gone above → gone key) :
    after.Enclosed where
  orderly := orderly
  files := by
    intro key object above stored isFile parent notSlash
    have stays : ¬gone key := by
      intro isGone
      rw [absent key isGone] at stored
      cases stored
    rw [same key stays] at stored
    rw [same above fun isGone => stays (below key above parent isGone)]
    exact enclosed.files stored isFile parent notSlash

theorem eraseAll {keys : List ObjectKey} (enclosed : store.Enclosed)
    (areFiles : ∀ key ∈ keys, key.isDirectoryForm = false) : (store.eraseAll keys).Enclosed := by
  apply enclosed.of_erased (enclosed.orderly.eraseAll areFiles) (· ∈ keys)
    (fun key notAmong => by rw [find?_eraseAll, if_neg notAmong])
    (fun key among => by rw [find?_eraseAll, if_pos among])
  intro key above parent among
  have isDirectory := (ObjectKey.encloses_of_parent? parent).1
  rw [areFiles above among] at isDirectory
  cases isDirectory

theorem withoutLead (enclosed : store.Enclosed) (lead : String) :
    (store.withoutLead lead).Enclosed := by
  apply enclosed.of_erased (enclosed.orderly.withoutLead lead)
    (fun key => Text.startsWith lead.toList key.text.toList = true)
    (fun key startsNot => by rw [find?_withoutLead, if_neg startsNot])
    (fun key starts => by rw [find?_withoutLead, if_pos starts])
  intro key above parent starts
  rcases ObjectKey.encloses_of_parent? parent with ⟨-, rest, -, isBelow⟩
  rw [Text.startsWith_iff_initial] at starts ⊢
  exact starts.trans ⟨rest, isBelow.symm⟩

end Store.Enclosed

/-- Calls that only look or put markers leave each key as it is, or put a marker there. -/
theorem find?_of_marks {Result : Type} {dialogue : StoreDialogue Result} {result : Result}
    {before after : Store} (asks : dialogue.Asks Call.Marks)
    (run : Run Tried dialogue before result after) (key : ObjectKey) :
    after.find? key = before.find? key ∨ after.find? key = some .marker := by
  induction run with
  | done => exact .inl rfl
  | @ask call next before middle after reply result answered _ induction =>
      have step : middle.find? key = before.find? key ∨ middle.find? key = some .marker := by
        cases call
        case putMarker marked =>
          cases answered with
          | served =>
              rw [Store.respond, Store.find?_put]
              split
              · exact .inr rfl
              · exact .inl rfl
          | refused => exact .inl rfl
        all_goals exact .inl (by rw [answered.eq_of_looks asks.1])
      rcases induction (asks.2 _) with same | isMarker
      · rw [same]
        exact step
      · exact .inr isMarker

end Depot.Memory

namespace Depot.Repository

open Memory Dialogue

variable {Handle : Type} {repository : Repository Handle} {path : LogicalPath}

/-! ## Each operation -/

theorem asks_createDirectory : (repository.createDirectory path).run.Asks Call.Marks :=
  (Asks.liftExcept _).bind fun _ => Directory.asks_create (fun _ => trivial) fun _ => trivial

theorem asks_createUri {location : String} :
    (repository.createUri location).run.Asks Call.Marks := by
  apply (Asks.liftExcept _).bind
  intro path
  have ensure : (do
      if !(← repository.exists? path) then
        repository.createDirectory path : StoreTask Unit).run.Asks Call.Marks := by
    apply (asks_exists?.mono fun _ => Call.Looks.marks).bind
    intro found
    cases found with
    | true => trivial
    | false => exact asks_createDirectory
  exact ensure.andThen fun _ => trivial

/-- A backup stores its file below markers. -/
theorem copyFrom_enclosed {source : IndexSource} {sourceName targetName : String}
    {target : LogicalPath} {before after : Store} {result : Except RepoError Unit}
    (hierarchical : repository.layout = .hierarchical)
    (run : Run Tried (repository.copyFrom source sourceName target targetName).run before result
      after)
    (enclosed : before.Enclosed) : after.Enclosed := by
  have marks {key : ObjectKey} : (createParent .hierarchical key).run.Asks Call.Marks :=
    asks_createParent (fun _ => trivial) fun _ => trivial
  rcases Run.bindExcept_iff.mp run with ⟨error, -, -, rfl⟩ | ⟨⟨key, input⟩, prepared, rest⟩
  · exact enclosed
  rcases prepare_eq_ok prepared with ⟨-, found, -, -, -⟩
  simp only [hierarchical] at rest
  rcases Run.bind_iff.mp rest with ⟨error, parents, -⟩ | ⟨_, middle, parents, uploading⟩
  · exact enclosed.of_marked (createParent_keepsOrder _ _ parents enclosed.orderly)
      (find?_of_marks marks parents)
  rcases run_createParent_marks enclosed.orderly parents with ⟨orderly, around⟩
  have marked : middle.Enclosed := enclosed.of_marked orderly (find?_of_marks marks parents)
  have stores {size : Except RepoError Nat} {last : Store}
      (upload : Run Tried (Transfer.intoStore repository.chunkSize input source.footerLength
        key).run middle size last) : last.Enclosed := by
    rcases run_of_plain Transfer.asks_intoStore upload with ⟨watched, uploaded, rfl⟩
    rcases Transfer.run_intoStore uploaded with ⟨failed, stored⟩
    cases size with
    | error error =>
        rw [failed error rfl]
        exact marked
    | ok size =>
        rw [(stored size rfl).2.2]
        refine marked.insert (keyBelow_isFile found).1 (keyBelow_isFile found).2 ?_ _
        intro above parent notSlash
        apply around above _ notSlash
        rw [ObjectKey.ancestors_of_parent? parent]
        exact List.mem_cons_self
  rcases Run.bind_iff.mp uploading with ⟨error, upload, -⟩ | ⟨size, last, upload, ending⟩
  · exact stores upload
  · rcases Run.pure_iff.mp ending with ⟨-, rfl⟩
    exact stores upload

/-- Whatever calls fail, every operation but the writing of a file keeps what is stored below
markers. -/
theorem perform_enclosed {operation : Operation} {before after : Store}
    {result : Except RepoError Unit} (hierarchical : repository.layout = .hierarchical)
    (notOutput : ¬operation.IsOutput)
    (run : Run Tried (repository.perform operation).run before result after)
    (enclosed : before.Enclosed) : after.Enclosed := by
  have unchanged (asks : (repository.perform operation).run.Asks Call.Looks) : after.Enclosed := by
    rw [run_of_looks asks run]
    exact enclosed
  have marked (asks : (repository.perform operation).run.Asks Call.Marks) : after.Enclosed := by
    have keeps := perform_keepsOrder repository operation run
    rw [hierarchical] at keeps
    exact enclosed.of_marked (keeps enclosed.orderly) (find?_of_marks asks run)
  cases operation with
  | createUri location => exact marked (asks_createUri.bind fun _ => trivial)
  | pathExists path => exact unchanged (asks_exists?.bind fun _ => trivial)
  | createDirectory path => exact marked asks_createDirectory
  | deleteDirectory path =>
      rcases run_of_plain asks_deleteDirectory run with ⟨watched, answered, rfl⟩
      rcases run_deleteDirectory_erases answered with same | ⟨lead, erased⟩
      · rw [same]
        exact enclosed
      · rw [erased]
        exact enclosed.withoutLead lead
  | listAll path => exact unchanged (asks_listAll.bind fun _ => trivial)
  | pathType path => exact unchanged (asks_pathType.bind fun _ => trivial)
  | delete path files ignoreMissing =>
      rcases run_of_plain asks_delete run with ⟨watched, answered, rfl⟩
      rcases run_delete answered with same | ⟨keys, areFiles, erased⟩
      · rw [same]
        exact enclosed
      · rw [erased]
        exact enclosed.eraseAll areFiles
  | openInput path file => exact unchanged (asks_openInput.bind fun _ => trivial)
  | output path chunks ending => exact absurd trivial notOutput
  | copyFrom source sourceName target targetName =>
      exact copyFrom_enclosed hierarchical run enclosed
  | copyIndexFileTo source sourceName tree directory targetName =>
      exact unchanged (asks_copyIndexFileTo.andThen fun _ => trivial)
  | copyFileTo source file tree directory =>
      exact unchanged (asks_copyFileTo.andThen fun _ => trivial)

/-- After a session that writes no files but by backups, everything in a store that was empty at
first lies below markers. -/
theorem performAll_enclosed {operations : List Operation}
    {outcomes : List (Except RepoError Unit)} {start after : Store}
    (hierarchical : repository.layout = .hierarchical)
    (noOutput : ∀ operation ∈ operations, ¬operation.IsOutput)
    (run : Run Tried (repository.performAll operations) start outcomes after)
    (enclosed : start.Enclosed) : after.Enclosed := by
  induction operations generalizing start outcomes with
  | nil =>
      rcases Run.done_iff.mp run with ⟨-, rfl⟩
      exact enclosed
  | cons operation operations induction =>
      rcases List.forall_mem_cons.mp noOutput with ⟨notOutput, noOutput⟩
      rcases Run.andThen_iff.mp run with ⟨outcome, middle, performed, rest⟩
      rcases Run.andThen_iff.mp rest with ⟨others, last, going, ending⟩
      rcases Run.done_iff.mp ending with ⟨-, rfl⟩
      exact induction noOutput going (perform_enclosed hierarchical notOutput performed enclosed)

end Depot.Repository
