import Depot.Proofs.Workers

/-!
Every interleaving of clients ends as if they had worked one after another. Each client has an
outline that holds whatever the others do in between: the directories that it needs are provided by
the time it is done with them, and nobody else touches its file. So what a store holds in the end
depends only on what it held at first and on what the clients were about to do.
-/

namespace Depot.Worker

open Memory Dialogue

variable {Handle Party : Type} {start : Store} {workers : Party → Worker Handle} {client : Party}
  {key : ObjectKey}

/-! ## The directories of a client -/

/-- Making directories as a client among others. A directory is settled if all that was lacking from
it upwards has markers. -/
def upkeep (start : Store) (apart : Apart workers) (client : Party) :
    Directory.Upkeep (setting start workers client) where
  invariant traffic := Sound start workers traffic ∧
    ∀ key, (workers client).target? = some key → traffic.store.find? key = start.find? key
  isNear key := key.isDirectoryForm = true ∧
    ∀ above ∈ start.lacking key, above ∈ (workers client).lacked start
  isFree key := key.isDirectoryForm = true ∧ key.isRoot = false ∧ start.find? key = none ∧
    ∀ above ∈ start.lacking key, above ∈ (workers client).lacked start
  isSettled key traffic := Provided start key traffic.store
  canFail := False
  stays := .and stable_sound (stable_target apart start.find?)
  settledStays := stable_provided
  root := by
    intro key traffic isRoot above member
    rw [Store.lacking_of_isRoot isRoot] at member
    cases member
  head := by
    rintro key before reply after ⟨sound, untouched⟩ ⟨isDirectory, lacked⟩ notRoot ⟨rfl, rfl⟩
    refine ⟨.of_looks trivial, ⟨sound.looking trivial, untouched⟩, ?_⟩
    change (∀ found, (before.store.look key).map _ = .ok found → _) ∧
      (∀ text, (before.store.look key).map _ = .error (.notFound text) → _) ∧
        ∀ error, (before.store.look key).map _ = .error error → _
    cases stored : before.store.find? key with
    | some object =>
        -- Another client may have put it since; what lies above it is provided all the same.
        simp only [Store.look, stored]
        exact ⟨fun _ _ => sound.provided isDirectory stored, nofun, nofun⟩
    | none =>
        simp only [Store.look, stored]
        refine ⟨nofun, ?_, ?_⟩
        · intro text _
          exact ⟨isDirectory, notRoot, sound.absent isDirectory stored, lacked⟩
        · intro error same
          cases same
          exact .inl rfl
  up := by
    rintro key above ⟨isDirectory, notRoot, absent, lacked⟩ parent
    refine ⟨(ObjectKey.encloses_of_parent? parent).1, ?_⟩
    intro next member
    apply lacked
    rw [Store.lacking_of_absent notRoot absent, parent]
    exact List.mem_cons_of_mem key member
  put := by
    rintro key before reply after ⟨sound, untouched⟩ ⟨isDirectory, notRoot, absent, lacked⟩ above
      ⟨rfl, rfl⟩
    have isLacked : key ∈ (workers client).lacked start := by
      apply lacked
      rw [Store.lacking_of_absent notRoot absent]
      exact List.mem_cons_self
    have step : Step start workers client before (before.respond (.putMarker key)).2 :=
      .of_putMarker isDirectory absent isLacked above
    have sound := step.sound sound
    refine ⟨step, ⟨sound, ?_⟩, ?_, nofun⟩
    · intro target isTarget
      have different := ObjectKey.ne_of_isDirectoryForm (isFile_of_target? isTarget) isDirectory
      exact (Store.find?_put_of_ne _ different.symm).trans (untouched target isTarget)
    · intro _
      exact sound.provided isDirectory (Store.find?_put_self _)

/-! ## The file of a client -/

/-- What is at the key of a client when it is done. -/
def outcome (start : Store) (worker : Worker Handle) (key : ObjectKey) : Option StoredObject :=
  match worker.bytes? with
  | some bytes => some ⟨bytes, false⟩
  | none => start.find? key

/-- Whether the directories that a client needs are there. -/
structure Made (start : Store) (workers : Party → Worker Handle) (client : Party)
    (traffic : Traffic) : Prop where
  sound : Sound start workers traffic
  markers : ∀ key ∈ (workers client).lacked start,
    key.isDirectoryForm = true ∧ traffic.store.find? key = some .marker

/-- Whether a client has done what it was about to do. -/
structure Finished (start : Store) (workers : Party → Worker Handle) (client : Party)
    (traffic : Traffic) : Prop where
  made : Made start workers client traffic
  file : ∀ key, (workers client).target? = some key →
    traffic.store.find? key = (workers client).outcome start key

theorem Made.step {other : Party} {before after : Traffic}
    (made : Made start workers client before) (step : Step start workers other before after) :
    Made start workers client after where
  sound := step.sound made.sound
  markers := by
    intro key member
    rcases made.markers key member with ⟨isDirectory, marked⟩
    exact ⟨isDirectory, step.markers key isDirectory marked⟩

theorem stable_made : (setting start workers client).Stable (Made start workers client) := by
  intro before after step made
  rcases step with ⟨other, -, step⟩
  exact made.step step

theorem stable_finished (apart : Apart workers) :
    (setting start workers client).Stable (Finished start workers client) := by
  intro before after step finished
  exact ⟨stable_made step finished.made,
    stable_target apart ((workers client).outcome start) step finished.file⟩

/-- Whether the directories of a client are there, and its file is yet to come. -/
structure Begun (start : Store) (workers : Party → Worker Handle) (client : Party)
    (traffic : Traffic) : Prop where
  made : Made start workers client traffic
  untouched : ∀ key, (workers client).target? = some key →
    traffic.store.find? key = start.find? key

theorem Begun.looking {traffic : Traffic} {call : Call} (begun : Begun start workers client traffic)
    (looks : call.Looks) : Begun start workers client (traffic.respond call).2 := by
  have step : Step start workers client traffic (traffic.respond call).2 := .of_looks looks
  have same : (traffic.respond call).2.store = traffic.store := Store.respond_of_looks looks
  refine ⟨begun.made.step step, ?_⟩
  rw [same]
  exact begun.untouched

theorem stable_begun (apart : Apart workers) :
    (setting start workers client).Stable (Begun start workers client) := by
  intro before after step begun
  exact ⟨stable_made step begun.made, stable_target apart start.find? step begun.untouched⟩

/-- Writes get the same replies whatever others do. -/
theorem outline_writes {Result : Type} {dialogue : StoreDialogue Result} {holds : Traffic → Prop}
    (asks : dialogue.Asks Call.IsWrite) (stays : (setting start workers client).Stable holds)
    (keeps : ∀ {traffic upload chunk}, holds traffic →
      holds (traffic.respond (.write upload chunk)).2) :
    Outline (setting start workers client) holds dialogue fun result traffic =>
      holds traffic ∧ result = (Store.empty.run dialogue).1 := by
  induction dialogue with
  | done result => exact .done stays fun here => ⟨here, rfl⟩
  | ask asked next induction =>
      cases asked
      case write upload chunk =>
        -- The reply is told by the upload alone, so an empty store gives it too.
        let reply := (Store.empty.respond (.write upload chunk)).1
        have rest (given : Call.Reply (.write upload chunk)) :
            Outline (setting start workers client) (fun traffic => holds traffic ∧ given = reply)
              (next given) fun result traffic => holds traffic ∧ result = (Store.empty.run
                (.ask (.write upload chunk) next)).1 := by
          have staysToo : (setting start workers client).Stable fun traffic =>
              holds traffic ∧ given = reply := .and stays (.ofFact _)
          apply Outline.given staysToo fun here => here.2
          rintro rfl
          exact (induction _ (asks.2 _)).strengthen staysToo fun here => here.1
        apply Outline.ask stays _ rest
        rintro before given after here ⟨rfl, rfl⟩
        exact ⟨.of_looks trivial, keeps here, rfl⟩
      all_goals exact asks.1.elim

/-- An upload that gets to its end has what a client stores, and it is at the key of the client. -/
theorem uploaded?_eq {chunkSize footerLength : Nat} {input : IndexInput} {upload : Upload}
    {result : Except RepoError Nat} (longer : footerLength < input.length)
    (written : (result, upload) = (Store.empty.run
      (Transfer.writeFile chunkSize input footerLength (Upload.begin key))).1) :
    upload.key = key ∧
      uploaded? chunkSize input footerLength key =
        if succeeded result then some upload.pending else none := by
  have run := run_of_store (Transfer.writeFile chunkSize input footerLength (Upload.begin key))
    (.fresh Store.empty)
  rw [Watched.fresh, ← written] at run
  refine ⟨(Transfer.run_writeFile longer run).2.1, ?_⟩
  rw [uploaded?, ← written]
  cases result <;> rfl

theorem outline_openWrite (apart : Apart workers) (key : ObjectKey) :
    Outline (setting start workers client) (Begun start workers client) (Client.openWrite key).run
      fun reply traffic => Begun start workers client traffic ∧ reply = .ok (Upload.begin key) := by
  apply Outline.question (stable_begun apart) fun _ => .and (stable_begun apart) (.ofFact _)
  rintro before reply after begun ⟨rfl, rfl⟩
  exact ⟨.of_looks trivial, begun.looking trivial, rfl⟩

theorem outline_finish (apart : Apart workers) {upload : Upload}
    (isTarget : (workers client).target? = some upload.key)
    (isBytes : (workers client).bytes? = some upload.pending) :
    Outline (setting start workers client) (Begun start workers client) (Client.finish upload).run
      fun reply traffic => Finished start workers client traffic ∧ reply = .ok () := by
  apply Outline.question (stable_begun apart) fun _ => .and (stable_finished apart) (.ofFact _)
  rintro before reply after begun ⟨rfl, rfl⟩
  have step : Step start workers client before (before.respond (.finish upload)).2 :=
    .of_finish isTarget (isFile_of_target? isTarget)
  refine ⟨step, ⟨begun.made.step step, ?_⟩, rfl⟩
  intro key alsoTarget
  cases isTarget.symm.trans alsoTarget
  rw [outcome, isBytes]
  exact Store.find?_put_self _

theorem outline_abort (apart : Apart workers) (upload : Upload)
    (nothing : (workers client).bytes? = none) :
    Outline (setting start workers client) (Begun start workers client) (Client.abort upload)
      fun _ => Finished start workers client := by
  apply Outline.question (stable_begun apart) fun _ => stable_finished apart
  rintro before reply after begun ⟨rfl, rfl⟩
  have still : Begun start workers client (before.respond (.abort upload)).2 :=
    begun.looking trivial
  refine ⟨.of_looks trivial, still.made, ?_⟩
  intro key isTarget
  rw [outcome, nothing]
  exact still.untouched key isTarget

theorem outline_intoStore (apart : Apart workers) {chunkSize footerLength : Nat}
    {input : IndexInput} (isTarget : (workers client).target? = some key)
    (longer : footerLength < input.length)
    (isBytes : (workers client).bytes? = uploaded? chunkSize input footerLength key) :
    Outline (setting start workers client) (Begun start workers client)
      (Transfer.intoStore chunkSize input footerLength key).run
      fun _ => Finished start workers client := by
  have stays : (setting start workers client).Stable (Begun start workers client) :=
    stable_begun apart
  have asks : (Transfer.writeFile chunkSize input footerLength (Upload.begin key)).Asks
      Call.IsWrite := Transfer.asks_writeFile fun _ _ => trivial
  rw [Transfer.intoStore, if_neg (Nat.not_le.mpr longer)]
  apply (outline_openWrite apart key).andThen
  intro reply
  apply Outline.given (.and stays (.ofFact _)) fun here => here.2
  rintro rfl
  have written := outline_writes asks stays fun here => here.looking trivial
  apply (written.strengthen (.and stays (.ofFact _)) fun here => here.1).andThen
  rintro ⟨streamed, upload⟩
  apply Outline.given (.and stays (.ofFact _)) fun here => here.2
  intro isWritten
  rcases uploaded?_eq longer isWritten with ⟨rfl, isUploaded⟩
  rw [isUploaded] at isBytes
  cases streamed with
  | ok size =>
      have finished : Outline (setting start workers client) _ _ _ :=
        outline_finish apart isTarget isBytes
      apply (finished.strengthen (.and stays (.ofFact _)) fun here => here.1).andThen
      intro reply
      apply Outline.given (.and (stable_finished apart) (.ofFact _)) fun here => here.2
      rintro rfl
      exact .done (.and (stable_finished apart) (.ofFact _)) fun here => here.1
  | error error =>
      have aborted : Outline (setting start workers client) _ _ _ :=
        outline_abort apart upload isBytes
      apply (aborted.strengthen (.and stays (.ofFact _)) fun here => here.1).andThen
      intro _
      exact .done (stable_finished apart) fun here => here

/-! ## The whole of a client -/

/-- Without a directory to make, a client has begun as soon as it is there. -/
theorem begun_of_no_directory (apart : Apart workers) {traffic : Traffic}
    (nothing : (workers client).directory? = none)
    (here : (upkeep start apart client).invariant traffic) :
    Begun start workers client traffic := by
  refine ⟨⟨here.1, ?_⟩, here.2⟩
  intro key member
  rw [lacked, nothing] at member
  cases member

theorem finished_of_no_target {traffic : Traffic} (nothing : (workers client).target? = none)
    (begun : Begun start workers client traffic) : Finished start workers client traffic := by
  refine ⟨begun.made, ?_⟩
  intro key isTarget
  rw [nothing] at isTarget
  cases isTarget

theorem outline_create (apart : Apart workers) {directory : ObjectKey}
    (isDirectory : (workers client).directory? = some directory) :
    Outline (setting start workers client) (upkeep start apart client).invariant
      (Directory.create .hierarchical directory).run
      fun result traffic => Begun start workers client traffic ∧ result = .ok () := by
  have isLacked : (workers client).lacked start = start.lacking directory.asDirectory := by
    rw [lacked, isDirectory]
  have near : directory.asDirectory.isRoot = true ∨
      (upkeep start apart client).isNear directory.asDirectory := by
    cases isRoot : directory.asDirectory.isRoot with
    | true => exact .inl rfl
    | false =>
        refine .inr ⟨ObjectKey.isDirectoryForm_asDirectory isRoot, ?_⟩
        intro above member
        rw [isLacked]
        exact member
  apply ((upkeep start apart client).outline_create near).weaken
  intro result traffic ends
  cases result with
  | ok =>
      refine ⟨⟨⟨ends.1.1, ?_⟩, ends.1.2⟩, rfl⟩
      rw [isLacked]
      exact ends.2
  | error => exact ends.2.elim

theorem outline_createParent (apart : Apart workers)
    (isDirectory : (workers client).directory? = key.parent?) :
    Outline (setting start workers client) (upkeep start apart client).invariant
      (Repository.createParent .hierarchical key).run
      fun result traffic => Begun start workers client traffic ∧ result = .ok () := by
  cases parent : key.parent? with
  | none =>
      rw [parent] at isDirectory
      rw [Repository.createParent, parent]
      exact .done (upkeep start apart client).stays fun here =>
        ⟨begun_of_no_directory apart isDirectory here, rfl⟩
  | some above =>
      rw [parent] at isDirectory
      rw [Repository.createParent, parent]
      exact outline_create apart isDirectory

theorem outline_createDirectory (apart : Apart workers)
    (hierarchical : (workers client).repository.layout = .hierarchical) {path : LogicalPath}
    (isJob : (workers client).job = .createDirectory path) :
    Outline (setting start workers client) (upkeep start apart client).invariant
      ((workers client).repository.createDirectory path).run
      fun _ => Finished start workers client := by
  have noTarget : (workers client).target? = none := by rw [target?, isJob]
  rw [Repository.createDirectory]
  cases ready : (workers client).repository.client.isSome with
  | true =>
      have required : (workers client).repository.requireClient = .ok () := by
        rw [Repository.requireClient, if_pos ready]
      have isDirectory : (workers client).directory? =
          some ((workers client).repository.layout.directoryKey path) := by
        rw [directory?, isJob]
        exact if_pos ready
      rw [hierarchical] at isDirectory ⊢
      rw [required]
      exact (outline_create apart isDirectory).weaken fun ends =>
        finished_of_no_target noTarget ends.1
  | false =>
      have required : (workers client).repository.requireClient =
          .error (.config "repository not initialized") := by
        rw [Repository.requireClient, ready]
        rfl
      have noDirectory : (workers client).directory? = none := by
        rw [directory?, isJob]
        exact if_neg (by simp [ready])
      rw [required]
      exact .done (upkeep start apart client).stays fun here =>
        finished_of_no_target noTarget (begun_of_no_directory apart noDirectory here)

theorem outline_copyFrom (apart : Apart workers)
    (hierarchical : (workers client).repository.layout = .hierarchical) {source : IndexSource}
    {sourceName targetName : String} {target : LogicalPath}
    (isJob : (workers client).job = .copyFrom source sourceName target targetName) :
    Outline (setting start workers client) (upkeep start apart client).invariant
      ((workers client).repository.copyFrom source sourceName target targetName).run
      fun _ => Finished start workers client := by
  have isDirectory : (workers client).directory? =
      (workers client).target?.bind ObjectKey.parent? := by
    rw [directory?, isJob]
  rw [Repository.copyFrom]
  cases prepared : (workers client).repository.prepare source sourceName target targetName with
  | error error =>
      have noTarget : (workers client).target? = none := by
        rw [target?, isJob]
        simp only [prepared]
        rfl
      rw [noTarget] at isDirectory
      exact .done (upkeep start apart client).stays fun here =>
        finished_of_no_target noTarget (begun_of_no_directory apart isDirectory here)
  | ok found =>
      rcases found with ⟨key, input⟩
      have isTarget : (workers client).target? = some key := by
        rw [target?, isJob]
        simp only [prepared]
        rfl
      have isBytes : (workers client).bytes? =
          uploaded? (workers client).repository.chunkSize input source.footerLength key := by
        rw [bytes?, isJob]
        simp only [prepared]
      rw [isTarget] at isDirectory
      have longer := (Repository.prepare_eq_ok prepared).2.2.2.2
      rw [hierarchical]
      have parents : Outline (setting start workers client) _ _ _ :=
        outline_createParent apart isDirectory
      change Outline _ _ (Repository.createParent .hierarchical key >>= fun _ => Transfer.intoStore
        (workers client).repository.chunkSize input source.footerLength key >>=
          fun _ => pure ()).run _
      rw [run_bind]
      apply parents.andThen
      intro result
      have stays : (setting start workers client).Stable fun traffic =>
          Begun start workers client traffic ∧ result = .ok () :=
        .and (stable_begun apart) (.ofFact _)
      apply Outline.given stays fun here => here.2
      rintro rfl
      change Outline _ _ (Transfer.intoStore _ input _ key >>= fun _ => pure ()).run _
      rw [run_bind]
      apply ((outline_intoStore apart isTarget longer isBytes).strengthen stays
        fun here => here.1).andThen
      intro uploaded
      cases uploaded <;> exact .done (stable_finished apart) fun here => here

/-- A client can be followed to its end, whatever the others do. -/
theorem outline_task (apart : Apart workers)
    (hierarchical : (workers client).repository.layout = .hierarchical) :
    Outline (setting start workers client) (upkeep start apart client).invariant
      (workers client).task.run fun _ => Finished start workers client := by
  rw [task]
  split
  · next path isJob => exact outline_createDirectory apart hierarchical isJob
  · next isJob => exact outline_copyFrom apart hierarchical isJob

/-! ## All clients -/

/-- Clients that are about to begin. -/
def atWork (start : Store) (workers : Party → Worker Handle) :
    Parties Party Call Call.Reply (Except RepoError Unit) Traffic where
  state := ⟨start, []⟩
  left client := (workers client).task.run

theorem outlined_atWork (apart : Apart workers)
    (hierarchical : ∀ client, (workers client).repository.layout = .hierarchical) :
    (atWork start workers).Outlined (setting start workers)
      fun client _ => Finished start workers client := by
  intro client
  exact ⟨_, ⟨Sound.begin start workers, fun _ _ => rfl⟩, outline_task apart (hierarchical client)⟩

/-- However the clients take turns, what was done so far is sound, and a client that has come to its
end has done what it was about to do. -/
theorem sound_play [DecidableEq Party] (apart : Apart workers)
    (hierarchical : ∀ client, (workers client).repository.layout = .hierarchical)
    (schedule : List Party) :
    Sound start workers ((atWork start workers).play Traffic.respond schedule).state ∧
      ∀ client, (((atWork start workers).play Traffic.respond schedule).left client).isDone = true →
        Finished start workers client
          ((atWork start workers).play Traffic.respond schedule).state := by
  have outlined : (atWork start workers).Outlined (setting start workers)
      fun client _ => Finished start workers client := outlined_atWork apart hierarchical
  rcases outlined.play (fun _ _ _ => ⟨rfl, rfl⟩) (fun different step => ⟨_, different, step⟩)
    (fun step => step.sound) (Sound.begin start workers) schedule with ⟨still, sound⟩
  refine ⟨sound, ?_⟩
  intro client done
  cases left : ((atWork start workers).play Traffic.respond schedule).left client with
  | done result => exact still.ended left
  | ask asked next =>
      rw [left] at done
      cases done

/-- What is stored when all clients are done does not depend on the turns that they took. -/
theorem Sound.store_eq {first second : Traffic} (sound : Sound start workers first)
    (also : Sound start workers second) (finished : ∀ client, Finished start workers client first)
    (alsoFinished : ∀ client, Finished start workers client second) :
    first.store = second.store := by
  have unlacked {traffic : Traffic} (sound : Sound start workers traffic) {key : ObjectKey}
      (isDirectory : key.isDirectoryForm = true)
      (nobody : ¬∃ client, key ∈ (workers client).lacked start) :
      traffic.store.find? key = start.find? key := by
    rcases sound.directories key isDirectory with same | ⟨-, -, lacked, -⟩
    · exact same
    · exact absurd lacked nobody
  apply Store.ext_find? (sound.pageSize.trans also.pageSize.symm)
    (sound.loose.trans also.loose.symm)
  intro key
  -- Either some client was to see to the key, and has, or it is as it was at the start.
  cases isDirectory : key.isDirectoryForm with
  | true =>
      by_cases somebody : ∃ client, key ∈ (workers client).lacked start
      · rcases somebody with ⟨client, lacked⟩
        rw [((finished client).made.markers key lacked).2,
          ((alsoFinished client).made.markers key lacked).2]
      · rw [unlacked sound isDirectory somebody, unlacked also isDirectory somebody]
  | false =>
      by_cases somebody : ∃ client, (workers client).target? = some key
      · rcases somebody with ⟨client, isTarget⟩
        rw [(finished client).file key isTarget, (alsoFinished client).file key isTarget]
      · rw [not_exists] at somebody
        rw [sound.files key isDirectory somebody, also.files key isDirectory somebody]

theorem store_run {Result : Type} (dialogue : StoreDialogue Result) (traffic : Traffic) :
    (dialogue.run Traffic.respond traffic).2.store = (traffic.store.run dialogue).2 := by
  induction dialogue generalizing traffic with
  | done result => rfl
  | ask asked next induction => exact induction _ (traffic.respond asked).2

theorem store_inOrder (start : Store) (workers : Party → Worker Handle) (order : List Party)
    (traffic : Traffic) :
    (order.foldl (fun traffic client =>
        (((atWork start workers).left client).run Traffic.respond traffic).2) traffic).store =
      order.foldl (fun store client => (store.run (workers client).task.run).2) traffic.store := by
  induction order generalizing traffic with
  | nil => rfl
  | cons client order induction =>
      rw [List.foldl_cons, List.foldl_cons, induction, store_run]
      rfl

/-- Clients that make directories and store files at different keys lose nothing. However they take
turns, each marker is put when all that was lacking above it is there; and once all are done, the
store is what it had been if they had worked one after another, in any order. -/
theorem play_loses_nothing {count : Nat} (start : Store) (workers : Fin count → Worker Handle)
    (hierarchical : ∀ client, (workers client).repository.layout = .hierarchical)
    (apart : ∀ first second key, (workers first).target? = some key →
      (workers second).target? = some key → first = second)
    (schedule : List (Fin count)) :
    let reached := (atWork start workers).play Traffic.respond schedule
    (∀ key, .putMarker key ∈ reached.state.calls →
      ∀ above ∈ start.lacking key, reached.state.store.find? above = some .marker) ∧
    ((∀ client, (reached.left client).isDone = true) →
      ∀ order : List (Fin count), order.Perm (List.finRange count) →
      reached.state.store =
        order.foldl (fun store client => (store.run (workers client).task.run).2) start) := by
  intro reached
  rcases sound_play apart hierarchical schedule with ⟨sound, finished⟩
  refine ⟨?_, ?_⟩
  · intro key member above lacking
    exact (sound.logged key member above lacking).2
  · intro done order perm
    have distinct : order.Nodup := perm.nodup_iff.mpr (List.nodup_finRange count)
    rcases Parties.exists_schedule_in_order Traffic.respond (atWork start workers) distinct with
      ⟨inOrder, last, ended, -⟩
    rcases sound_play apart hierarchical inOrder with ⟨also, alsoFinished⟩
    calc reached.state.store
      _ = ((atWork start workers).play Traffic.respond inOrder).state.store := by
        apply sound.store_eq also (fun client => finished client (done client))
        intro client
        exact alsoFinished client (ended client (perm.mem_iff.mpr (List.mem_finRange client)))
      _ = _ := by
        rw [last]
        exact store_inOrder start workers order (atWork start workers).state

/-! Two clients that lack the same directories. The second looks for `a/` when the first has just
put its marker, and so puts only the marker of `a/b/`; the first puts that again, and the one below
it. -/

private def shop : Repository Unit := ⟨.hierarchical, 4, 10, .empty, some ()⟩

private def ledger : IndexSource where
  openInput name := .ok ⟨name, 22, Reader.ofBytes (Footer.sealed "body 1".toUTF8)⟩
  footerLength := 16

private def crew : Fin 2 → Worker Unit
  | 0 => ⟨shop, .createDirectory (.make .s3 none "/a/b/c/")⟩
  | 1 => ⟨shop, .copyFrom ledger "f" (.make .s3 none "/a/b") "f"⟩

private def stall : Store := Store.empty.insert ⟨"a/b/g"⟩ "old".toUTF8

private def turns : List (Fin 2) := [0, 0, 1, 0, 0, 1, 1, 1, 0, 1, 1, 0, 1, 1]

theorem play_loses_nothing_crowded :
    let reached := (atWork stall crew).play Traffic.respond turns
    (∀ client, (reached.left client).isDone = true) ∧
      reached.state.store.keys = ["a/", "a/b/", "a/b/c/", "a/b/f", "a/b/g"] ∧
      stall.lacking ⟨"a/b/c/"⟩ = [⟨"a/b/c/"⟩, ⟨"a/b/"⟩, ⟨"a/"⟩] ∧
      reached.state.store =
        [1, 0].foldl (fun store client => (store.run (crew client).task.run).2) stall := by
  have hierarchical (client : Fin 2) : (crew client).repository.layout = .hierarchical := by
    match client with
    | 0 => rfl
    | 1 => rfl
  have apart (first second : Fin 2) (key : ObjectKey) (isFirst : (crew first).target? = some key)
      (isSecond : (crew second).target? = some key) : first = second := by
    match first, second with
    | 0, _ => cases isFirst
    | 1, 0 => cases isSecond
    | 1, 1 => rfl
  have done : ∀ client,
      (((atWork stall crew).play Traffic.respond turns).left client).isDone = true := by
    decide +kernel
  refine ⟨done, by decide +kernel, by decide +kernel, ?_⟩
  exact (play_loses_nothing stall crew hierarchical apart turns).2 done [1, 0] (by decide)

end Depot.Worker
