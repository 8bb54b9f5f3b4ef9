import Depot.Proofs.Attempts
import Depot.Proofs.Backup
import Depot.Proofs.Parties
import Depot.Proofs.Upkeep

/-!
Clients that work on one store at the same time, each making a directory or storing a file. Whatever
the order of their calls, the store ends as if they had worked one after another. A client may stop
its walk upwards at a marker that another client has just put; as markers are put with the outermost
first, all that was lacking above such a marker is there by then.
-/

namespace Depot.Memory

/-- A store and the calls that it has answered, the latest last. -/
structure Traffic where
  store : Store
  calls : List Call

def Traffic.respond (traffic : Traffic) (call : Call) : Call.Reply call × Traffic :=
  ((traffic.store.respond call).1, ⟨(traffic.store.respond call).2, traffic.calls ++ [call]⟩)

end Depot.Memory

namespace Depot

open Memory Dialogue

inductive Job where
  | createDirectory (path : LogicalPath)
  | copyFrom (source : IndexSource) (sourceName : String) (target : LogicalPath)
      (targetName : String)

/-- A client, and what it is about to do. -/
structure Worker (Handle : Type) where
  repository : Repository Handle
  job : Job

namespace Worker

variable {Handle : Type}

def task (worker : Worker Handle) : StoreTask Unit :=
  match worker.job with
  | .createDirectory path => worker.repository.createDirectory path
  | .copyFrom source sourceName target targetName =>
      worker.repository.copyFrom source sourceName target targetName

/-- The key that a worker stores a file at, if it gets so far as to ask the store. -/
def target? (worker : Worker Handle) : Option ObjectKey :=
  match worker.job with
  | .createDirectory _ => none
  | .copyFrom source sourceName target targetName =>
      (worker.repository.prepare source sourceName target targetName).toOption.map Prod.fst

/-- The directory that a worker makes, if it gets so far as to ask the store. -/
def directory? (worker : Worker Handle) : Option ObjectKey :=
  match worker.job with
  | .createDirectory path =>
      if worker.repository.client.isSome then some (worker.repository.layout.directoryKey path)
      else none
  | .copyFrom _ _ _ _ => worker.target?.bind ObjectKey.parent?

/-- The directories that a store lacks for a worker. -/
def lacked (worker : Worker Handle) (start : Store) : List ObjectKey :=
  match worker.directory? with
  | none => []
  | some directory => start.lacking directory.asDirectory

/-- What an upload hands to the store in the end, unless its source is found wrong. -/
def uploaded? (chunkSize : Nat) (input : IndexInput) (footerLength : Nat) (key : ObjectKey) :
    Option ByteArray :=
  match (Store.empty.run
      (Transfer.writeFile chunkSize input footerLength (Upload.begin key))).1 with
  | (.ok _, upload) => some upload.pending
  | (.error _, _) => none

/-- The bytes that a worker stores, unless it stores none. -/
def bytes? (worker : Worker Handle) : Option ByteArray :=
  match worker.job with
  | .createDirectory _ => none
  | .copyFrom source sourceName target targetName =>
      match worker.repository.prepare source sourceName target targetName with
      | .error _ => none
      | .ok (key, input) => uploaded? worker.repository.chunkSize input source.footerLength key

/-! ## What holds at every moment -/

section

variable {Party : Type} (start : Store) (workers : Party → Worker Handle)

/-- Whether all directories that were lacking from one upwards have markers. -/
def Provided (directory : ObjectKey) (store : Store) : Prop :=
  ∀ above ∈ start.lacking directory,
    above.isDirectoryForm = true ∧ store.find? above = some .marker

/-- What has become of a store while clients work: markers have come only where directories were
lacking, each with all that was lacking above it, and files only to the keys of the clients. -/
structure Sound (traffic : Traffic) : Prop where
  pageSize : traffic.store.pageSize = start.pageSize
  loose : traffic.store.loose = start.loose
  directories : ∀ key, key.isDirectoryForm = true →
    traffic.store.find? key = start.find? key ∨
      start.find? key = none ∧ traffic.store.find? key = some .marker ∧
        (∃ client, key ∈ (workers client).lacked start) ∧ Provided start key traffic.store
  files : ∀ key, key.isDirectoryForm = false → (∀ client, (workers client).target? ≠ some key) →
    traffic.store.find? key = start.find? key
  logged : ∀ key, .putMarker key ∈ traffic.calls → Provided start key traffic.store

/-- Whether markers stay where they are. -/
def KeepsMarkers (before after : Store) : Prop :=
  ∀ key, key.isDirectoryForm = true → before.find? key = some .marker →
    after.find? key = some .marker

/-- What a client may do to a store: it keeps markers, and the files of the other clients. -/
structure Step (client : Party) (before after : Traffic) : Prop where
  sound : Sound start workers before → Sound start workers after
  markers : KeepsMarkers before.store after.store
  files : ∀ key, key.isDirectoryForm = false → (workers client).target? ≠ some key →
    after.store.find? key = before.store.find? key

end

section

variable {Party : Type} {start store after : Store} {workers : Party → Worker Handle}
  {client : Party} {traffic : Traffic} {key directory : ObjectKey}

theorem keepsMarkers_put_marker (store : Store) (key : ObjectKey) :
    KeepsMarkers store (store.put key .marker) := by
  intro sought _ marked
  rw [Store.find?_put]
  split
  · rfl
  · exact marked

theorem keepsMarkers_insert (store : Store) (isFile : key.isDirectoryForm = false)
    (data : ByteArray) : KeepsMarkers store (store.insert key data) := by
  intro sought isDirectory marked
  have different := ObjectKey.ne_of_isDirectoryForm isFile isDirectory
  rw [Store.insert, Store.find?_put_of_ne _ different]
  exact marked

theorem Provided.mono (provided : Provided start directory store)
    (keeps : KeepsMarkers store after) : Provided start directory after := by
  intro above member
  rcases provided above member with ⟨isDirectory, marked⟩
  exact ⟨isDirectory, keeps above isDirectory marked⟩

/-- A marker provides its directory if the directory around it is provided. -/
theorem Provided.of_marker (isDirectory : key.isDirectoryForm = true)
    (marked : store.find? key = some .marker)
    (above : ∀ above, key.parent? = some above → Provided start above store) :
    Provided start key store := by
  intro next member
  cases stored : start.find? key with
  | some object =>
      rw [Store.lacking_of_stored stored] at member
      cases member
  | none =>
      cases isRoot : key.isRoot with
      | true =>
          rw [Store.lacking_of_isRoot isRoot] at member
          cases member
      | false =>
          rw [Store.lacking_of_absent isRoot stored] at member
          rcases List.mem_cons.mp member with rfl | member
          · exact ⟨isDirectory, marked⟩
          · cases parent : key.parent? with
            | none => simp [parent] at member
            | some around =>
                rw [parent] at member
                exact above around parent next member

namespace Sound

theorem begin (start : Store) (workers : Party → Worker Handle) :
    Sound start workers ⟨start, []⟩ where
  pageSize := rfl
  loose := rfl
  directories _ _ := .inl rfl
  files _ _ _ := rfl
  logged _ member := nomatch member

/-- A directory that is there is provided. -/
theorem provided (sound : Sound start workers traffic) {object : StoredObject}
    (isDirectory : key.isDirectoryForm = true) (stored : traffic.store.find? key = some object) :
    Provided start key traffic.store := by
  rcases sound.directories key isDirectory with same | ⟨-, -, -, provided⟩
  -- What was there at first stops the walk upwards, so nothing was lacking.
  · intro above member
    rw [Store.lacking_of_stored (same.symm.trans stored)] at member
    cases member
  · exact provided

theorem absent (sound : Sound start workers traffic) (isDirectory : key.isDirectoryForm = true)
    (absent : traffic.store.find? key = none) : start.find? key = none := by
  rcases sound.directories key isDirectory with same | ⟨absent, -, -, -⟩
  · exact same.symm.trans absent
  · exact absent

theorem looking (sound : Sound start workers traffic) {call : Call} (looks : call.Looks) :
    Sound start workers (traffic.respond call).2 := by
  have same : (traffic.respond call).2.store = traffic.store := Store.respond_of_looks looks
  constructor
  case logged =>
    intro key member
    rw [same]
    rcases List.mem_append.mp member with earlier | now
    · exact sound.logged key earlier
    · cases List.mem_singleton.mp now
      exact looks.elim
  all_goals rw [same]
  · exact sound.pageSize
  · exact sound.loose
  · exact sound.directories
  · exact sound.files

/-- A marker where a directory was lacking, below what is provided. -/
theorem putting (sound : Sound start workers traffic) (isDirectory : key.isDirectoryForm = true)
    (absent : start.find? key = none) (lacked : key ∈ (workers client).lacked start)
    (above : ∀ above, key.parent? = some above → Provided start above traffic.store) :
    Sound start workers (traffic.respond (.putMarker key)).2 := by
  have keeps := keepsMarkers_put_marker traffic.store key
  have marked : (traffic.store.put key .marker).find? key = some .marker := Store.find?_put_self _
  have provided : Provided start key (traffic.store.put key .marker) :=
    .of_marker isDirectory marked fun around parent => (above around parent).mono keeps
  refine ⟨sound.pageSize, sound.loose, ?directories, ?files, ?logged⟩
  case directories =>
    intro sought soughtDirectory
    change (traffic.store.put key .marker).find? sought = _ ∨ _
    by_cases here : key = sought
    · subst here
      exact .inr ⟨absent, marked, ⟨client, lacked⟩, provided⟩
    · rcases sound.directories sought soughtDirectory with
        same | ⟨wasAbsent, there, isLacked, before⟩
      · exact .inl (by rw [Store.find?_put_of_ne _ here, same])
      · refine .inr ⟨wasAbsent, ?_, isLacked, before.mono keeps⟩
        exact keeps sought soughtDirectory there
  case files =>
    intro sought isFile apart
    have different := ObjectKey.ne_of_isDirectoryForm isFile isDirectory
    exact (Store.find?_put_of_ne _ different.symm).trans (sound.files sought isFile apart)
  case logged =>
    intro sought member
    rcases List.mem_append.mp member with earlier | now
    · exact (sound.logged sought earlier).mono keeps
    · cases List.mem_singleton.mp now
      exact provided

/-- A file at the key of a client. -/
theorem finishing (sound : Sound start workers traffic) {upload : Upload}
    (isTarget : (workers client).target? = some upload.key)
    (isFile : upload.key.isDirectoryForm = false) :
    Sound start workers (traffic.respond (.finish upload)).2 := by
  have keeps := keepsMarkers_insert traffic.store isFile upload.pending
  refine ⟨sound.pageSize, sound.loose, ?directories, ?files, ?logged⟩
  case directories =>
    intro sought isDirectory
    have different := ObjectKey.ne_of_isDirectoryForm isFile isDirectory
    have same : (traffic.store.insert upload.key upload.pending).find? sought =
        traffic.store.find? sought := Store.find?_put_of_ne _ different
    rcases sound.directories sought isDirectory with
      unchanged | ⟨wasAbsent, there, isLacked, before⟩
    · exact .inl (same.trans unchanged)
    · exact .inr ⟨wasAbsent, same.trans there, isLacked, before.mono keeps⟩
  case files =>
    intro sought soughtFile apart
    have different : upload.key ≠ sought := by
      rintro rfl
      exact apart client isTarget
    exact (Store.find?_put_of_ne _ different).trans (sound.files sought soughtFile apart)
  case logged =>
    intro sought member
    rcases List.mem_append.mp member with earlier | now
    · exact (sound.logged sought earlier).mono keeps
    · cases List.mem_singleton.mp now

end Sound

/-! ## Steps of a client -/

namespace Step

theorem of_looks {call : Call} (looks : call.Looks) :
    Step start workers client traffic (traffic.respond call).2 := by
  have same : (traffic.respond call).2.store = traffic.store := Store.respond_of_looks looks
  refine ⟨fun sound => sound.looking looks, ?_, ?_⟩
  · intro key _ marked
    rw [same, marked]
  · intro key _ _
    rw [same]

theorem of_putMarker (isDirectory : key.isDirectoryForm = true) (absent : start.find? key = none)
    (lacked : key ∈ (workers client).lacked start)
    (above : ∀ above, key.parent? = some above → Provided start above traffic.store) :
    Step start workers client traffic (traffic.respond (.putMarker key)).2 where
  sound sound := sound.putting isDirectory absent lacked above
  markers := keepsMarkers_put_marker traffic.store key
  files _ isFile _ :=
    Store.find?_put_of_ne _ (ObjectKey.ne_of_isDirectoryForm isFile isDirectory).symm

theorem of_finish {upload : Upload} (isTarget : (workers client).target? = some upload.key)
    (isFile : upload.key.isDirectoryForm = false) :
    Step start workers client traffic (traffic.respond (.finish upload)).2 where
  sound sound := sound.finishing isTarget isFile
  markers := keepsMarkers_insert traffic.store isFile upload.pending
  files key _ notTarget := by
    apply Store.find?_put_of_ne
    rintro rfl
    exact notTarget isTarget

end Step

/-- A client among others that all keep to their steps. -/
def setting (start : Store) (workers : Party → Worker Handle) (client : Party) :
    Setting Call Call.Reply Traffic where
  allowed before call reply after :=
    reply = (before.respond call).1 ∧ after = (before.respond call).2
  others before after := ∃ other, other ≠ client ∧ Step start workers other before after
  own := Step start workers client

/-- Whether no two clients store a file at the same key. -/
def Apart (workers : Party → Worker Handle) : Prop :=
  ∀ ⦃first second key⦄, (workers first).target? = some key → (workers second).target? = some key →
    first = second

theorem isFile_of_target? {worker : Worker Handle} (isTarget : worker.target? = some key) :
    key.isDirectoryForm = false := by
  rw [target?] at isTarget
  split at isTarget
  · cases isTarget
  next source sourceName target targetName _ =>
    rcases Option.map_eq_some_iff.mp isTarget with ⟨⟨key, input⟩, prepared, rfl⟩
    cases isPrepared : worker.repository.prepare source sourceName target targetName with
    | error error =>
        rw [isPrepared] at prepared
        cases prepared
    | ok found =>
        rw [isPrepared] at prepared
        cases prepared
        exact (Repository.keyBelow_isFile (Repository.prepare_eq_ok isPrepared).2.1).2

theorem stable_sound : (setting start workers client).Stable (Sound start workers) := by
  intro before after step sound
  rcases step with ⟨other, -, step⟩
  exact step.sound sound

theorem stable_provided (directory : ObjectKey) :
    (setting start workers client).Stable fun traffic =>
      Provided start directory traffic.store := by
  intro before after step provided
  rcases step with ⟨other, -, step⟩
  exact provided.mono step.markers

/-- What is at the key of a client is left to that client. -/
theorem stable_target (apart : Apart workers) (object : ObjectKey → Option StoredObject) :
    (setting start workers client).Stable fun traffic =>
      ∀ key, (workers client).target? = some key → traffic.store.find? key = object key := by
  intro before after step there key isTarget
  rcases step with ⟨other, different, step⟩
  rw [step.files key (isFile_of_target? isTarget) fun also => different (apart also isTarget)]
  exact there key isTarget

end

end Worker

end Depot
