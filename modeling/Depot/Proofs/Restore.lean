import Depot.Repository
import Depot.Proofs.Backup
import Depot.Proofs.Download
import Depot.Proofs.LocalFiles
import Depot.Proofs.Locations

/-!
Backup and restore. A restore finds the key of the backup: below the same path by the same name, or
in the flat namespace by the key itself, from any path. The key is joined onto the root there, and as
it has been collapsed before, collapsing it again leaves it as it is.
-/

namespace Depot.Namespace

/-- Joining onto a path without a host collapses some text below the root. -/
theorem joined_of_no_host {layout : Namespace} {base : LogicalPath} (name : String)
    (noHost : base.host = none) :
    ∃ text, layout.joined base name = .make layout.scheme none (collapse text) := by
  unfold joined
  split
  · exact ⟨_, rfl⟩
  · rw [noHost]
    exact ⟨_, rfl⟩

/-- In the flat namespace, the key of a file below the root leads to the same file. -/
theorem joined_root_of_fileKey {text : String} {key : ObjectKey}
    (isKey : fileKey (.make .swarm none (collapse text)) = .ok key) :
    flat.joined flat.root key.text = .make .swarm none (collapse text) := by
  rcases open_of_fileKey isKey with ⟨isOpen, hasSegments⟩
  rcases List.head?_eq_some_iff.mp (head?_collapse text) with ⟨rest, whole⟩
  have isRest : key.text.toList = rest := by
    rw [(objectKey_of_fileKey isKey).1, objectKey_toList, path_make_collapse, whole]
    rfl
  have rooted : (LogicalPath.root .swarm).path = "/" := by decide +kernel
  unfold joined
  split
  · have again : collapse ("/" ++ key.text) = collapse text := by
      have noDelimiters : ∀ character ∈ ([] : List Char), character = delimiter := by simp
      apply collapse_again isOpen hasSegments noDelimiters
      rw [String.toList_append, isRest, whole]
      rfl
    rw [again]
    rfl
  · have again : collapse (flat.root.path ++ "/" ++ key.text) = collapse text := by
      have oneDelimiter : ∀ character ∈ [delimiter], character = delimiter := by simp
      apply collapse_again isOpen hasSegments oneDelimiter
      rw [root, scheme, rooted, String.toList_append, isRest, whole]
      rfl
    rw [again]
    rfl

end Depot.Namespace

namespace Depot.Repository

open Memory Dialogue

variable {Handle : Type} {repository : Repository Handle} {before after : Watched}

/-- Whether a restore writes some content to a local file: whenever the file can be created, the
store serves the restore, and it succeeds with every run in which no call fails. The store is left
alone, and the file can be read with that content. -/
def Restores (repository : Repository Handle) (before : Watched) (path : LogicalPath)
    (file localName : String) (content : ByteArray) : Prop :=
  ∀ tree directory names grown,
    Local.Tree.createOutput tree directory localName = (.ok names, grown) →
    before.store.run (repository.copyFileTo path file tree directory) =
        ((.ok (), grown.put names (.file content)), before.store) ∧
      (grown.put names (.file content)).openInput directory localName =
        .ok ⟨localName, content.size, Reader.ofBytes content⟩ ∧
      ∀ result restored after,
        Run Answered (repository.copyFileTo path file tree directory) before (result, restored)
          after →
        after.failures = before.failures →
        result = .ok () ∧ restored = grown.put names (.file content) ∧ after = before

theorem run_copyIndexFileTo {key : ObjectKey} {object : StoredObject} {source : LogicalPath}
    {sourceName targetName directory : String} {tree grown restored : Local.Tree}
    {names : List String} {result : Except RepoError Unit}
    (ready : repository.client.isSome = true) (named : requireNames sourceName targetName = .ok ())
    (atKey : repository.keyBelow source sourceName = .ok key)
    (stored : before.store.find? key = some object) (isFile : object.isDirectory = false)
    (created : tree.createOutput directory targetName = (.ok names, grown))
    (run : Run Answered (repository.copyIndexFileTo source sourceName tree directory targetName)
      before (result, restored) after)
    (noFailure : after.failures = before.failures) :
    after = before ∧ result = .ok () ∧ restored = grown.put names (.file object.data) := by
  have isReady : repository.requireClient = .ok () := by rw [requireClient, if_pos ready]
  simp only [copyIndexFileTo, named, atKey, isReady, bind, Except.bind, pure, Except.pure] at run
  rcases Run.andThen_iff.mp run with ⟨headed, middle, asked, rest⟩
  rcases Yields.headLength stored isFile headed middle asked with ⟨rfl, rfl⟩ | ⟨error, rfl, rfl⟩
  · simp only [created] at rest
    rcases Run.andThen_iff.mp rest with ⟨⟨copied, file⟩, last, download, ending⟩
    rcases Run.done_iff.mp ending with ⟨same, rfl⟩
    cases same
    rcases Transfer.run_outOfStore stored download noFailure with ⟨rfl, rfl, received⟩
    rw [received]
    exact ⟨rfl, rfl, rfl⟩
  · rw [(Run.done_iff.mp rest).2] at noFailure
    exact absurd noFailure (List.cons_ne_self _ _)

/-- What is stored is restored from where its key is found. -/
theorem restores_of_stored {key : ObjectKey} {content : ByteArray} {path found : LogicalPath}
    {file localName : String} (ready : repository.client.isSome = true)
    (route : ∀ tree directory, repository.copyFileTo path file tree directory =
      repository.copyIndexFileTo found file tree directory localName)
    (named : file ≠ "") (atKey : repository.keyBelow found file = .ok key)
    (stored : before.store.find? key = some ⟨content, false⟩) :
    repository.Restores before path file localName content := by
  intro tree directory names grown created
  have localNamed := Local.Tree.name_ne_empty_of_createOutput created
  have bothNamed := requireNames_eq_ok_iff.mpr ⟨named, localNamed⟩
  have everyRun (result : Except RepoError Unit) (restored : Local.Tree) (after : Watched)
      (run : Run Answered (repository.copyFileTo path file tree directory) before
        (result, restored) after)
      (noFailure : after.failures = before.failures) :
      result = .ok () ∧ restored = grown.put names (.file content) ∧ after = before := by
    rw [route] at run
    rcases run_copyIndexFileTo ready bothNamed atKey stored rfl created run noFailure with
      ⟨same, success, received⟩
    exact ⟨success, received, same⟩
  refine ⟨?served, Local.Tree.openInput_of_createOutput created, everyRun⟩
  have served := run_of_store (repository.copyFileTo path file tree directory) before
  generalize before.store.run (repository.copyFileTo path file tree directory) = outcome at served ⊢
  rcases outcome with ⟨⟨result, restored⟩, store⟩
  rcases everyRun result restored _ served rfl with ⟨rfl, rfl, same⟩
  rw [← same]

theorem keyBelow_of_sameLayout {left right : Repository Handle}
    (sameLayout : left.layout = right.layout) (path : LogicalPath) (name : String) :
    left.keyBelow path name = right.keyBelow path name := by
  rw [keyBelow, keyBelow, sameLayout]

theorem keyBelow_of_resolved {path file : LogicalPath} {name : String} {key : ObjectKey}
    (resolved : repository.layout.resolve path [name] = .ok file)
    (isKey : Namespace.fileKey file = .ok key) : repository.keyBelow path name = .ok key := by
  rw [keyBelow, resolved]
  exact isKey

/-- In the flat namespace, the key of a file below the root is found by its own text. -/
theorem keyBelow_root {path : LogicalPath} {name : String} {key : ObjectKey}
    (isFlat : repository.layout = .flat) (noHost : path.host = none)
    (atKey : repository.keyBelow path name = .ok key) :
    key.text ≠ "" ∧ repository.keyBelow repository.layout.root key.text = .ok key := by
  rcases keyBelow_eq_ok atKey with ⟨-, isKey⟩
  rcases Namespace.joined_of_no_host name noHost with ⟨text, isJoined⟩
  rw [isJoined, isFlat, Namespace.scheme] at isKey
  constructor
  · intro empty
    have notRoot := (Namespace.objectKey_of_fileKey isKey).2.1
    rw [ObjectKey.isRoot, empty] at notRoot
    cases notRoot
  · have again := Namespace.joined_root_of_fileKey isKey
    have resolved := Namespace.resolve_root .flat key.text
    -- Nothing more has to be known about the file, so it is not computed.
    generalize Namespace.flat.joined Namespace.flat.root key.text = file at again resolved
    rw [← again] at isKey
    rw [← isFlat] at resolved
    exact keyBelow_of_resolved resolved isKey

/-- A restore from a repository with the same layout gives the bytes that were backed up. -/
theorem restores_of_copyFrom {backup restore : Repository Handle} {source : IndexSource}
    {sourceName name : String} {path : LogicalPath} (sameLayout : restore.layout = backup.layout)
    (ready : restore.client.isSome = true)
    (copied : Run Answered (backup.copyFrom source sourceName path name).run before (.ok ())
      after) :
    ∃ key input, backup.keyBelow path name = .ok key ∧ source.openInput sourceName = .ok input ∧
      input.content.size = input.length ∧
      (backup.layout = .hierarchical → restore.Restores after path name name input.content) ∧
      (backup.layout = .flat → path.host = none → ∀ other,
        restore.Restores after other key.text (afterFirstDelimiter key.text) input.content) := by
  rcases run_copyFrom copied with ⟨failed, -⟩ | ⟨key, input, marked, prepared, -, ending⟩
  · exact absurd rfl failed
  rcases ending with ⟨failed, -⟩ | ⟨-, there, inserted⟩
  · exact absurd rfl failed
  rcases prepare_eq_ok prepared with ⟨named, atKey, -, opened, -⟩
  have stored : after.store.find? key = some ⟨input.content, false⟩ := by
    rw [inserted, Store.insert, Store.find?_put_self]
  refine ⟨key, input, atKey, opened, Reader.size_upcoming there, ?hierarchical, ?flat⟩
  case hierarchical =>
    intro isHierarchical
    have route : ∀ tree directory, restore.copyFileTo path name tree directory =
        restore.copyIndexFileTo path name tree directory name := by
      intro tree directory
      rw [copyFileTo, sameLayout, isHierarchical]
    rw [← keyBelow_of_sameLayout sameLayout] at atKey
    exact restores_of_stored ready route named atKey stored
  case flat =>
    intro isFlat noHost other
    have route : ∀ tree directory, restore.copyFileTo other key.text tree directory =
        restore.copyIndexFileTo restore.layout.root key.text tree directory
          (afterFirstDelimiter key.text) := by
      intro tree directory
      rw [copyFileTo, sameLayout, isFlat]
    rw [← keyBelow_of_sameLayout sameLayout] at atKey
    rcases keyBelow_root (sameLayout.trans isFlat) noHost atKey with ⟨keyNamed, atRoot⟩
    exact restores_of_stored ready route keyNamed atRoot stored

/-! A backup in the flat namespace in chunks of four bytes, from a source that hands out three at
once, and its restore in chunks of two, from a path that has nothing to do with it. -/

private def scroll : IndexSource where
  openInput name := .ok ⟨name, 22, (Reader.ofBytes (Footer.sealed "body 1".toUTF8)).withPace 3⟩
  footerLength := 16

private def library (chunkSize : Nat) : Repository Unit := ⟨.flat, chunkSize, 10, .empty, some ()⟩

private def shelved : Except RepoError Unit × Store :=
  Store.empty.run ((library 4).copyFrom scroll "f" (.make .swarm none "/a/") "f").run

theorem restores_of_copyFrom_scroll :
    shelved.1 = .ok () ∧ ∃ grown,
      (Local.Tree.bare ["w"]).createOutput "" "f" = (.ok ["w", "f"], grown) ∧
      shelved.2.run ((library 2).copyFileTo (.make .s3 (some "h") "/z") "a/f" (.bare ["w"]) "") =
        ((.ok (), grown.put ["w", "f"] (.file (Footer.sealed "body 1".toUTF8))), shelved.2) := by
  have success : shelved.1 = .ok () := by decide +kernel
  have backup := run_of_store ((library 4).copyFrom scroll "f" (.make .swarm none "/a/") "f").run
    (.fresh .empty)
  have isFirst : (Store.empty.run ((library 4).copyFrom scroll "f" (.make .swarm none "/a/")
    "f").run).1 = .ok () := success
  have sameLayout : (library 2).layout = (library 4).layout := rfl
  have isKey : (library 4).keyBelow (.make .swarm none "/a/") "f" = .ok ⟨"a/f"⟩ := by decide +kernel
  have localName : afterFirstDelimiter "a/f" = "f" := by decide +kernel
  have accepted : ((Local.Tree.bare ["w"]).createOutput "" "f").1 = .ok ["w", "f"] := by
    decide +kernel
  simp only [Watched.fresh, isFirst] at backup
  rcases restores_of_copyFrom sameLayout rfl backup with ⟨key, input, atKey, opened, -, -, flat⟩
  rw [isKey] at atKey
  cases atKey
  cases opened
  have restored := flat rfl rfl (.make .s3 (some "h") "/z")
  rw [localName] at restored
  have created : (Local.Tree.bare ["w"]).createOutput "" "f" = (.ok ["w", "f"], _) :=
    Prod.ext accepted rfl
  refine ⟨success, _, created, ?_⟩
  have whole : (IndexInput.mk "f" 22
      ((Reader.ofBytes (Footer.sealed "body 1".toUTF8)).withPace 3)).content =
        Footer.sealed "body 1".toUTF8 := by
    decide +kernel
  rw [whole] at restored
  exact (restored _ _ _ _ created).1

end Depot.Repository
