import Depot.Proofs.Backup
import Depot.Proofs.Deletion
import Depot.Proofs.Locations
import Depot.Proofs.Segments

/-!
Where a backup can be seen. The file is stored below the collapsed directory, but the directory keeps
the text of its location, and a listing looks below that text with the delimiters at its end merged.
The three agree on locations that collapsing leaves alone, and on no others: there, the file exists,
but neither has it the key of the directory in front, nor need the directory list it.
-/

namespace Depot.Namespace

/-- Whether a path is the top of a host that ends in a delimiter. No location leads there. -/
def IsTopOfClosedHost (path : LogicalPath) : Prop :=
  path.path = "/" ∧ ∃ host, path.host = some host ∧ Text.endsWith delimiter host.toList = true

/-- Whether collapsing leaves a path as it is. -/
def IsTidy (path : LogicalPath) : Prop := collapse path.path = path.path

/-! ## Leads of listings -/

/-- The lead of a directory's listing is the key of its path with the delimiters at its end
merged, unless nothing else is left of the path and the host ends in a delimiter as well. -/
theorem lead_toList_of_stays {path : LogicalPath}
    (stays : ∀ host, path.host = some host →
      Text.trimEnd delimiter path.path.toList ≠ [] ∨ Text.endsWith delimiter host.toList = false) :
    (objectKey path).trimDirectory.asDirectory.text.toList =
      keyText path.host (Text.trimEnd delimiter path.path.toList ++ [delimiter]) := by
  rcases path.path_eq_cons with ⟨rest, isPath⟩
  rw [ObjectKey.text_asDirectory_trimDirectory]
  have trimmedKey := ObjectKey.text_trimDirectory_toList (objectKey path)
  rw [objectKey_toList] at trimmedKey
  cases isHost : path.host with
  | some host =>
      have nonempty : host.toList ≠ [] := by
        intro empty
        apply path.host_ne_empty
        rw [isHost, String.toList_eq_nil_iff.mp empty]
      rw [isHost, keyText, Text.trimEnd_append (stays host isHost)] at trimmedKey
      rw [if_neg, String.toList_append, trimmedKey, keyText, List.append_assoc]
      · rfl
      · intro nothing
        rw [nothing] at trimmedKey
        exact nonempty (List.append_eq_nil_iff.mp trimmedKey.symm).1
  | none =>
      rw [isHost, keyText, isPath, List.tail_cons] at trimmedKey
      rw [keyText, isPath]
      by_cases nothing : Text.trimEnd delimiter rest = []
      · rw [nothing, String.toList_eq_nil_iff] at trimmedKey
        have allTrimmed : Text.trimEnd delimiter (delimiter :: rest) = [] := by
          rcases Text.trimEnd_append_replicate delimiter rest with ⟨count, whole⟩
          rw [nothing, List.nil_append] at whole
          rw [whole, ← List.replicate_succ, ← List.nil_append (List.replicate _ _),
            Text.trimEnd_append_replicate_self]
          rfl
        rw [if_pos trimmedKey, allTrimmed]
        rfl
      · have kept : Text.trimEnd delimiter ([delimiter] ++ rest) = _ :=
          Text.trimEnd_append (.inl nothing)
        rw [if_neg, String.toList_append, trimmedKey]
        · rw [List.singleton_append] at kept
          rw [kept]
          rfl
        · intro empty
          rw [empty] at trimmedKey
          exact nothing trimmedKey.symm

theorem lead_toList {path : LogicalPath}
    (plain : ∀ host, path.host = some host → delimiter ∉ host.toList) :
    (objectKey path).trimDirectory.asDirectory.text.toList =
      keyText path.host (Text.trimEnd delimiter path.path.toList ++ [delimiter]) := by
  apply lead_toList_of_stays
  intro host isHost
  exact .inr (Text.endsWith_of_not_mem (plain host isHost))

/-- A tidy directory lists what is behind its key. -/
theorem lead_of_tidy {path : LogicalPath} (isClosed : path.isDirectory = true) (tidy : IsTidy path)
    (hostOpen : ¬IsTopOfClosedHost path) :
    (objectKey path).trimDirectory.asDirectory.text = (objectKey path).text := by
  have merged := trimEnd_collapse isClosed
  rw [tidy] at merged
  rw [← String.toList_inj, lead_toList_of_stays, merged, objectKey_toList]
  intro host isHost
  by_cases isSlash : path.path = "/"
  · right
    rw [Bool.eq_false_iff]
    exact fun hostClosed => hostOpen ⟨isSlash, host, isHost, hostClosed⟩
  · left
    intro nothing
    rw [nothing] at merged
    exact isSlash (String.toList_inj.mp merged.symm)

theorem head?_merged (path : LogicalPath) :
    (Text.trimEnd delimiter path.path.toList ++ [delimiter]).head? = some delimiter := by
  have starts := path.path_starts
  rcases Text.trimEnd_append_replicate delimiter path.path.toList with ⟨count, whole⟩
  cases trimmed : Text.trimEnd delimiter path.path.toList with
  | nil => rfl
  | cons first others =>
      rw [whole, trimmed] at starts
      exact starts

end Depot.Namespace

namespace Depot.Repository

open Memory Dialogue

variable {Handle : Type} {repository : Repository Handle} {before middle after : Watched}

theorem run_createUri_ok {location : String} {path : LogicalPath}
    (made : Run Answered (repository.createUri location).run before (.ok path) after) :
    repository.layout.normalize location = .ok path := by
  rcases Run.bind_iff.mp made with ⟨error, -, same⟩ | ⟨found, between, normalized, rest⟩
  · cases same
  · rcases Run.liftExcept_iff.mp normalized with ⟨normalized, -⟩
    rcases Run.andThen_iff.mp rest with ⟨_, last, -, ending⟩
    rcases Run.done_iff.mp ending with ⟨same, -⟩
    cases same
    exact normalized.symm

/-- What is stored at a key exists. -/
theorem yields_exists_of_stored {path : LogicalPath} {key : ObjectKey}
    (ready : repository.client.isSome = true) (isKey : Namespace.fileKey path = .ok key)
    (stored : (before.store.find? key).isSome = true) :
    Yields (repository.exists? path) before (.ok true) before := by
  rcases Namespace.objectKey_of_fileKey isKey with ⟨rfl, notRoot, notDirectory⟩
  apply (yields_requireClient ready).reading
  unfold Directory.pathExists
  simp only [notRoot, Bool.false_eq_true, if_false]
  cases repository.layout with
  | flat =>
      have trimmed := ObjectKey.trimDirectory_of_file notDirectory
      rw [trimmed, ← stored]
      exact Yields.exists? _
  | hierarchical =>
      have found : Yields (Client.exists? (Namespace.objectKey path)) before _ before :=
        Yields.exists? _
      rw [stored] at found
      exact found.reading (Yields.ofPure true)

/-- A plain name is listed exactly if something is stored behind the lead of the listing. -/
theorem mem_listed_iff {store : Store} {lead name : String} (nonempty : name ≠ "")
    (plain : delimiter ∉ name.toList) :
    name ∈ sortedDistinct (store.keys.filterMap (Directory.child? lead)) ↔
      (store.find? ⟨lead ++ name⟩).isSome = true := by
  rw [mem_sortedDistinct, List.mem_filterMap, Option.isSome_iff_exists, ← Store.mem_keys_iff]
  simp only [Directory.child?_eq_some_file_iff nonempty plain]
  constructor
  · intro given
    rcases given with ⟨text, stored, rfl⟩
    exact stored
  · intro stored
    exact ⟨lead ++ name, stored, rfl⟩

/-- A backup below the directory of a location exists. Its key is that of the directory with the name
behind it exactly if the directory is tidy, and then the directory lists the name; any directory
lists the name exactly if something is stored behind the lead of its listing, which is where the
backup is exactly if collapsing the path only merges the delimiters at its end. -/
theorem copyFrom_visible {source : IndexSource} {sourceName name location : String}
    {path : LogicalPath} (nonempty : name ≠ "") (notDot : name ≠ ".")
    (plain : delimiter ∉ name.toList)
    (made : Run Answered (repository.createUri location).run before (.ok path) middle)
    (copied : Run Answered (repository.copyFrom source sourceName path name).run middle (.ok ())
      after) :
    ∃ file key lead, repository.layout.resolve path [name] = .ok file ∧
      Namespace.fileKey file = .ok key ∧
      lead = (Namespace.objectKey path).trimDirectory.asDirectory.text ∧
      (path.isRoot = true ∨ (Namespace.objectKey path).isDirectoryForm = true) ∧
      Yields (repository.exists? file) after (.ok true) after ∧
      (key.text = (Namespace.objectKey path).text ++ name ↔ Namespace.IsTidy path) ∧
      (key.text = lead ++ name ↔ (Namespace.collapse path.path).toList =
        Text.trimEnd delimiter path.path.toList ++ [delimiter]) ∧
      (after.store.keys.length < repository.pageLimit → ∃ names,
        Yields (repository.listAll path) after (.ok names) after ∧
        (name ∈ names ↔ (after.store.find? ⟨lead ++ name⟩).isSome = true) ∧
        (Namespace.IsTidy path → name ∈ names)) := by
  rcases Namespace.normalize_eq_ok (run_createUri_ok made) with ⟨isClosed, hostPlain⟩
  have proper : Namespace.isProper name.toList = true := by
    have notDotText : name.toList ≠ ['.'] := fun same => notDot (String.toList_inj.mp same)
    simp [Namespace.isProper, nonempty, notDotText]
  rcases run_copyFrom copied with ⟨failed, -⟩ | ⟨key, input, marked, prepared, -, ending⟩
  · exact absurd rfl failed
  rcases ending with ⟨failed, -⟩ | ⟨-, -, inserted⟩
  · exact absurd rfl failed
  rcases prepare_eq_ok prepared with ⟨-, atKey, ready, -, -⟩
  rcases keyBelow_eq_ok atKey with ⟨resolved, isKey⟩
  have stored : (after.store.find? key).isSome = true := by
    rw [inserted, Store.insert, Store.find?_put_self]
    rfl
  have whole := Namespace.toList_of_fileKey isClosed proper plain isKey
  have collapsedRooted := Namespace.head?_collapse path.path
  have tidyIff : key.text = (Namespace.objectKey path).text ++ name ↔ Namespace.IsTidy path := by
    rw [← String.toList_inj, String.toList_append, whole, Namespace.objectKey_toList,
      List.append_cancel_right_eq, Namespace.keyText_inj collapsedRooted path.path_starts,
      String.toList_inj]
    rfl
  have mergedIff : key.text =
      (Namespace.objectKey path).trimDirectory.asDirectory.text ++ name ↔
        (Namespace.collapse path.path).toList =
          Text.trimEnd delimiter path.path.toList ++ [delimiter] := by
    rw [← String.toList_inj, String.toList_append, whole, Namespace.lead_toList hostPlain,
      List.append_cancel_right_eq,
      Namespace.keyText_inj collapsedRooted (Namespace.head?_merged path)]
  refine ⟨_, key, _, resolved, isKey, rfl, Namespace.isDirectoryForm_objectKey isClosed,
    yields_exists_of_stored ready isKey stored, tidyIff, mergedIff, ?_⟩
  intro few
  refine ⟨_, yields_listAll ready few, mem_listed_iff nonempty plain, ?_⟩
  intro tidy
  have merged := Namespace.trimEnd_collapse isClosed
  rw [tidy] at merged
  have listed := mergedIff.mpr (by rw [tidy, merged])
  rw [mem_listed_iff nonempty plain, ← listed]
  exact stored

/-! A backup of one byte in the flat namespace, below a location that is tidy and below one that is
not. -/

private def letter : IndexSource where
  openInput name := .ok ⟨name, 17, Reader.ofBytes (Footer.sealed (.mk #[7]))⟩
  footerLength := 16

private def mailbox : Repository Unit := ⟨.flat, 4, 10, .empty, some ()⟩

private def visited (location : String) : Except RepoError LogicalPath × Store :=
  Store.empty.run (mailbox.createUri location).run

private def posted (location : String) (path : LogicalPath) : Except RepoError Unit × Store :=
  (visited location).2.run (mailbox.copyFrom letter "f" path "f").run

private theorem run_visited (location : String) :
    Run Answered (mailbox.createUri location).run (.fresh .empty) (visited location).1
      (.fresh (visited location).2) :=
  run_of_store _ (.fresh .empty)

private theorem run_posted (location : String) (path : LogicalPath) :
    Run Answered (mailbox.copyFrom letter "f" path "f").run (.fresh (visited location).2)
      (posted location path).1 (.fresh (posted location path).2) :=
  run_of_store _ (.fresh (visited location).2)

theorem copyFrom_visible_letter :
    ∃ path after names, Namespace.normalize .flat "a/b" = .ok path ∧ Namespace.IsTidy path ∧
      Yields (mailbox.listAll path) after (.ok names) after ∧ "f" ∈ names := by
  have made := run_visited "a/b"
  have copied := run_posted "a/b" (.make .swarm none "/a/b/")
  have isPath : (visited "a/b").1 = .ok (.make .swarm none "/a/b/") := by decide +kernel
  have success : (posted "a/b" (.make .swarm none "/a/b/")).1 = .ok () := by decide +kernel
  have few : (posted "a/b" (.make .swarm none "/a/b/")).2.keys.length < mailbox.pageLimit := by
    decide +kernel
  have tidy : Namespace.IsTidy (.make .swarm none "/a/b/") := by
    rw [Namespace.IsTidy]
    decide +kernel
  rw [isPath] at made
  rw [success] at copied
  rcases copyFrom_visible (by decide) (by decide) (by decide +kernel) made copied with
    ⟨file, key, lead, -, -, -, -, -, -, -, listing⟩
  rcases listing few with ⟨names, listed, -, isListed⟩
  exact ⟨_, _, names, run_createUri_ok made, tidy, listed, isListed tidy⟩

/-- Below a location with an empty segment, a backup succeeds and its file exists, but its key is not
that of the directory with the name behind it, and the directory lists nothing. -/
theorem copyFrom_below_empty_segment :
    ∃ path file key after, Namespace.normalize .flat "a//b" = .ok path ∧
      Run Answered (mailbox.createUri "a//b").run (.fresh .empty) (.ok path)
        (.fresh (visited "a//b").2) ∧
      Run Answered (mailbox.copyFrom letter "f" path "f").run (.fresh (visited "a//b").2) (.ok ())
        after ∧
      Namespace.resolve .flat path ["f"] = .ok file ∧ Namespace.fileKey file = .ok key ∧
      after.store.keys = [key.text] ∧ key.text = "a/b/f" ∧
      (Namespace.objectKey path).text = "a//b/" ∧
      Yields (mailbox.listAll path) after (.ok []) after := by
  have made := run_visited "a//b"
  have copied := run_posted "a//b" (.make .swarm none "/a//b/")
  have isPath : (visited "a//b").1 = .ok (.make .swarm none "/a//b/") := by decide +kernel
  have success : (posted "a//b" (.make .swarm none "/a//b/")).1 = .ok () := by decide +kernel
  have keys : (posted "a//b" (.make .swarm none "/a//b/")).2.keys = ["a/b/f"] := by decide +kernel
  have isReady : mailbox.client.isSome = true := rfl
  have few : (posted "a//b" (.make .swarm none "/a//b/")).2.keys.length < mailbox.pageLimit := by
    rw [keys]
    decide
  have listed : Yields (mailbox.listAll (.make .swarm none "/a//b/"))
    (.fresh (posted "a//b" (.make .swarm none "/a//b/")).2) _ _ := yields_listAll isReady few
  have nothing : sortedDistinct (["a/b/f"].filterMap (Directory.child? (Namespace.objectKey
      (.make .swarm none "/a//b/")).trimDirectory.asDirectory.text)) = [] := by
    decide +kernel
  rw [isPath] at made
  rw [success] at copied
  simp only [Watched.fresh, keys, nothing] at listed
  exact ⟨_, .make .swarm none "/a/b/f", ⟨"a/b/f"⟩, _, run_createUri_ok made, made, copied,
    by decide +kernel, by decide +kernel, keys, rfl, by decide +kernel, listed⟩

end Depot.Repository
