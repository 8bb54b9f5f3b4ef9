import Mathlib.Data.List.Basic
import Depot.Proofs.Attempts
import Depot.Proofs.Download
import Depot.Proofs.LocalFiles
import Depot.Proofs.Transcripts

/-!
What a restore that fails leaves behind. Nothing is written before the object is opened, so up to
there all local files are as before; but the local file is created before the object is opened, and
it stays if that fails or if the stream breaks off, with the whole chunks that have arrived. As a file
that exists is never written to, the restore cannot be tried again then.
-/

namespace Depot.Local.Tree

/-- Whether two trees hold the same files with the same contents. -/
def SameFiles (left right : Tree) : Prop := ∀ names, left.file? names = right.file? names

/-- Whether a tree holds one file that another one does not, and else the same, so that the file
cannot be created. -/
structure LeavesFile (before after : Tree) (directory name : String) (content : ByteArray) :
    Prop where
  added : ∃ names, before.file? names = none ∧ after.file? names = some content ∧
    ∀ other, names ≠ other → after.file? other = before.file? other
  refused : after.createOutput directory name = (.error (.io .alreadyExists), after)

/-- Whether a file has not been created: nothing has been done for it, or it could not be created. -/
def LacksFile (before after : Tree) (directory name : String) : Prop :=
  after = before ∨ ∃ error, before.createOutput directory name = (.error error, after)

variable {before grown : Tree} {names : List String} {directory name : String}

theorem LacksFile.sameFiles {after : Tree} (lacks : before.LacksFile after directory name) :
    after.SameFiles before := by
  rcases lacks with rfl | ⟨error, refused⟩
  · exact fun _ => rfl
  · exact file?_of_createOutput_error refused

theorem leavesFile_of_createOutput
    (created : before.createOutput directory name = (.ok names, grown)) (content : ByteArray) :
    before.LeavesFile (grown.put names (.file content)) directory name content where
  added := by
    refine ⟨names, (file?_of_createOutput created content names).1, ?_, ?_⟩
    · rw [(file?_of_createOutput created content names).2, if_pos rfl]
    · intro other different
      rw [(file?_of_createOutput created content other).2, if_neg different]
  refused := createOutput_again created content

theorem LeavesFile.not_sameFiles {after : Tree} {content : ByteArray}
    (leaves : before.LeavesFile after directory name content) : ¬after.SameFiles before := by
  rcases leaves.added with ⟨names, absent, there, -⟩
  intro same
  rw [same names, absent] at there
  cases there

end Depot.Local.Tree

namespace Depot

open Dialogue

abbrev StoreTranscript : Type := Transcript Call Call.Reply

/-- Whether an object was opened for reading. -/
def StoreTranscript.Opens (transcript : StoreTranscript) : Prop :=
  ∃ key reply, (⟨.openRead key, reply⟩ : (call : Call) × Call.Reply call) ∈ transcript

/-- How a restore can fail: before the object is opened, and all files are as before; or the object
is not opened, or its stream breaks off, and the local file stays with what had arrived. -/
inductive FailedRestore (chunkSize : Nat) (directory name : String) (before after : Local.Tree)
    (transcript : StoreTranscript) (error : RepoError) : Prop
  | unopened (opensNot : ¬transcript.Opens) (same : after.SameFiles before)
  | opening {key : ObjectKey} (asked : ⟨.openRead key, .error error⟩ ∈ transcript)
      (leaves : before.LeavesFile after directory name .empty)
  | reading {key : ObjectKey} {reader : Reader} {cause : IoCause}
      (asked : ⟨.openRead key, .ok reader⟩ ∈ transcript) (breaks : reader.failure = some cause)
      (isError : error = .transfer key.text (.io cause))
      (leaves : before.LeavesFile after directory name
        (reader.upcoming (reader.remaining - reader.remaining % max chunkSize 1)))

namespace FailedRestore

variable {chunkSize : Nat} {directory name : String} {before after : Local.Tree}
  {transcript : StoreTranscript} {error : RepoError}

/-- The files are as before exactly if the object was not opened. -/
theorem sameFiles_iff (failed : FailedRestore chunkSize directory name before after transcript error) :
    after.SameFiles before ↔ ¬transcript.Opens := by
  cases failed with
  | unopened opensNot same => exact iff_of_true same opensNot
  | opening asked leaves => exact iff_of_false leaves.not_sameFiles (not_not_intro ⟨_, _, asked⟩)
  | reading asked breaks isError leaves =>
      exact iff_of_false leaves.not_sameFiles (not_not_intro ⟨_, _, asked⟩)

/-- Once the object was opened, the local file cannot be created again. -/
theorem refused (failed : FailedRestore chunkSize directory name before after transcript error)
    (opens : transcript.Opens) :
    after.createOutput directory name = (.error (.io .alreadyExists), after) := by
  cases failed with
  | unopened opensNot same => exact absurd opens opensNot
  | opening asked leaves => exact leaves.refused
  | reading asked breaks isError leaves => exact leaves.refused

end FailedRestore

namespace Transfer

/-- A download opens the object and asks for nothing else. It fails if the object is not opened or its
stream breaks off. -/
theorem goes_outOfStore {chunkSize : Nat} {key : ObjectKey} {transcript : StoreTranscript}
    {copied : Except RepoError Nat} {file : Destination}
    (goes : (outOfStore chunkSize key .unlimited).Goes transcript (copied, file)) :
    (∃ error, transcript = [⟨.openRead key, .error error⟩] ∧ copied = .error error ∧
        file.received = .empty) ∨
      ∃ reader : Reader, transcript = [⟨.openRead key, .ok reader⟩] ∧
        (reader.failure = none ∧ copied = .ok reader.remaining ∧
            file.received = reader.upcoming reader.remaining ∨
          ∃ cause, reader.failure = some cause ∧
            copied = .error (.transfer key.text (.io cause)) ∧
            file.received =
              reader.upcoming (reader.remaining - reader.remaining % max chunkSize 1)) := by
  rw [outOfStore_eq] at goes
  rcases Goes.ask_iff.mp goes with ⟨reply, rest, rfl, ending⟩
  rcases Goes.done_iff.mp ending with ⟨same, rfl⟩
  cases reply with
  | error error =>
      cases same
      exact .inl ⟨error, rfl, rfl, rfl⟩
  | ok reader =>
      right
      refine ⟨reader, rfl, ?_⟩
      rw [download, copyAll_unlimited, Transfer.ending, Reader.delivered] at same
      cases failure : reader.failure with
      | none =>
          rw [failure] at same
          cases same
          exact .inl ⟨rfl, rfl, ByteArray.empty_append⟩
      | some cause =>
          rw [failure] at same
          cases same
          exact .inr ⟨cause, rfl, rfl, ByteArray.empty_append⟩

end Transfer

namespace Repository

variable {Handle : Type} {repository : Repository Handle} {source : LogicalPath}
  {sourceName targetName directory : String} {tree left : Local.Tree}
  {transcript : StoreTranscript} {result : Except RepoError Unit}

/-- How a restore can go: it fails before the object is opened, without a local file; or it creates
the local file, and downloads the object into it. -/
theorem goes_copyIndexFileTo
    (goes : (repository.copyIndexFileTo source sourceName tree directory targetName).Goes transcript
      (result, left)) :
    (result ≠ .ok () ∧ ¬transcript.Opens ∧ tree.LacksFile left directory targetName) ∨
      ∃ key names grown copied file early late, transcript = early ++ late ∧
        tree.createOutput directory targetName = (.ok names, grown) ∧
        (Transfer.outOfStore repository.chunkSize key .unlimited).Goes late (copied, file) ∧
        result = copied.map (fun _ => ()) ∧ left = grown.put names (.file file.received) := by
  rw [copyIndexFileTo] at goes
  split at goes
  next error _ =>
    rcases Goes.done_iff.mp goes with ⟨same, rfl⟩
    cases same
    exact .inl ⟨by simp, by simp [StoreTranscript.Opens], .inl rfl⟩
  next key _ =>
    rcases Goes.andThen_iff.mp goes with ⟨length, early, late, rfl, heading, rest⟩
    have opensNot : ¬StoreTranscript.Opens early := by
      intro opens
      rcases opens with ⟨other, reply, asked⟩
      have heads : (Client.headLength key).run.Asks fun call => ∀ other, call ≠ .openRead other :=
        Client.asks_headLength (by simp)
      exact heading.asked heads _ asked other rfl
    cases length with
    | error error =>
        rcases Goes.done_iff.mp rest with ⟨same, rfl⟩
        cases same
        rw [List.append_nil]
        exact .inl ⟨by simp, opensNot, .inl rfl⟩
    | ok length =>
        simp only at rest
        split at rest
        next error tree refused =>
          rcases Goes.done_iff.mp rest with ⟨same, rfl⟩
          cases same
          rw [List.append_nil]
          exact .inl ⟨by simp, opensNot, .inr ⟨error, refused⟩⟩
        next names grown created =>
          rcases Goes.andThen_iff.mp rest with ⟨⟨copied, file⟩, late, _, rfl, download, ending⟩
          rcases Goes.done_iff.mp ending with ⟨same, rfl⟩
          cases same
          rw [List.append_nil]
          exact .inr ⟨key, names, grown, copied, file, early, late, rfl, created, download, rfl, rfl⟩

theorem failedRestore_of_goes {error : RepoError}
    (goes : (repository.copyIndexFileTo source sourceName tree directory targetName).Goes transcript
      (.error error, left)) :
    FailedRestore repository.chunkSize directory targetName tree left transcript error := by
  rcases goes_copyIndexFileTo goes with
    ⟨-, opensNot, lacks⟩ | ⟨key, names, grown, copied, file, early, late, rfl, created, download,
      ends, rfl⟩
  · exact .unopened opensNot lacks.sameFiles
  rcases Transfer.goes_outOfStore download with
    ⟨refusal, rfl, rfl, nothing⟩ | ⟨reader, rfl, ⟨-, rfl, -⟩ | ⟨cause, breaks, rfl, arrived⟩⟩
  · cases ends
    rw [nothing]
    exact .opening (List.mem_append_right _ (List.mem_singleton_self _))
      (Local.Tree.leavesFile_of_createOutput created _)
  · cases ends
  · cases ends
    rw [arrived]
    exact .reading (List.mem_append_right _ (List.mem_singleton_self _)) breaks rfl
      (Local.Tree.leavesFile_of_createOutput created _)

/-- Where the local file cannot be created, a restore fails, and all files stay as they are. -/
theorem goes_of_refused {error : RepoError} {grown : Local.Tree}
    (refused : tree.createOutput directory targetName = (.error error, grown))
    (goes : (repository.copyIndexFileTo source sourceName tree directory targetName).Goes transcript
      (result, left)) : result ≠ .ok () ∧ left.SameFiles tree := by
  rcases goes_copyIndexFileTo goes with ⟨failed, -, lacks⟩ | ⟨_, _, _, _, _, _, _, -, created, -⟩
  · exact ⟨failed, lacks.sameFiles⟩
  · rw [refused] at created
    cases created

/-- The name of the local file that a file below a path is copied to. -/
def localName (repository : Repository Handle) (file : String) : String :=
  match repository.layout with
  | .hierarchical => file
  | .flat => afterFirstDelimiter file

/-- To copy a file below a path to a local directory is to restore it to its local name. -/
theorem copyFileTo_eq (repository : Repository Handle) (source : LogicalPath)
    (file directory : String) :
    ∃ found, ∀ tree, repository.copyFileTo source file tree directory =
      repository.copyIndexFileTo found file tree directory (repository.localName file) := by
  unfold copyFileTo localName
  cases repository.layout with
  | hierarchical => exact ⟨source, fun _ => rfl⟩
  | flat => exact ⟨_, fun _ => rfl⟩

/-- What a restore to a local file leaves behind whenever it fails, whatever the store answers. All
files are as before exactly if the object was not opened; otherwise the local file is there with what
had arrived, and the restore fails again however often it is tried. -/
def LeavesOnFailure (chunkSize : Nat) (directory name : String)
    (restore : Local.Tree → StoreDialogue (Except RepoError Unit × Local.Tree)) : Prop :=
  ∀ before after transcript error, (restore before).Goes transcript (.error error, after) →
    FailedRestore chunkSize directory name before after transcript error ∧
    (after.SameFiles before ↔ ¬StoreTranscript.Opens transcript) ∧
    (StoreTranscript.Opens transcript → ∀ again result last,
      (restore after).Goes again (result, last) → result ≠ .ok () ∧ last.SameFiles after)

theorem leavesOnFailure_copyIndexFileTo :
    LeavesOnFailure repository.chunkSize directory targetName fun tree =>
      repository.copyIndexFileTo source sourceName tree directory targetName := by
  intro before after transcript error goes
  have failed := failedRestore_of_goes goes
  refine ⟨failed, failed.sameFiles_iff, ?_⟩
  intro opens again result last retried
  exact goes_of_refused (failed.refused opens) retried

/-- A restore that fails leaves all local files as they were if the object was not opened. Else the
local file stays: empty if the object could not be opened, and with the whole chunks before the break
if its stream broke off; and no retry succeeds. -/
theorem failed_restore_leaves (repository : Repository Handle) (source : LogicalPath)
    (directory : String) :
    (∀ sourceName targetName, LeavesOnFailure repository.chunkSize directory targetName fun tree =>
      repository.copyIndexFileTo source sourceName tree directory targetName) ∧
    ∀ file, LeavesOnFailure repository.chunkSize directory (repository.localName file) fun tree =>
      repository.copyFileTo source file tree directory := by
  constructor
  · intro sourceName targetName
    exact leavesOnFailure_copyIndexFileTo
  · intro file
    rcases copyFileTo_eq repository source file directory with ⟨found, same⟩
    simp only [same]
    exact leavesOnFailure_copyIndexFileTo

/-! A file of three bytes that is restored in chunks of two, from a store that does not open it and
from one whose stream breaks off behind the last byte. -/

private def cellar : Repository Unit := ⟨.hierarchical, 2, 10, .empty, some ()⟩

private def kept : Memory.Store := Memory.Store.empty.insert ⟨"a/f"⟩ (.mk #[1, 2, 3])

private def fetch (tree : Local.Tree) : StoreDialogue (Except RepoError Unit × Local.Tree) :=
  cellar.copyFileTo (.make .s3 none "/a/") "f" tree ""

private def closedStore : List Fault := [⟨.openRead, none, none, .transport "down", 0, 0⟩]

private def brokenStream : List Fault := [⟨.read, none, none, .io Fault.readFailure, 3, 0⟩]

/-- The result and the local files of a restore behind a plan of failures. -/
private def fetched (plan : List Fault) (tree : Local.Tree) : Except RepoError Unit × Local.Tree :=
  ((fetch tree).run (Fault.interpose Memory.Store.respond) (plan, kept)).1

theorem failed_restore_leaves_vault :
    ∃ transcript : StoreTranscript,
      (fetch (.bare ["w"])).Goes transcript
        (.error (.transport "down"), (fetched closedStore (.bare ["w"])).2) ∧
      transcript.Opens ∧
      ∀ again result last, (fetch (fetched closedStore (.bare ["w"])).2).Goes again (result, last) →
        result ≠ .ok () := by
  have goes := Dialogue.goes_run (Fault.interpose Memory.Store.respond) (fetch (.bare ["w"]))
    (closedStore, kept)
  have fails : (fetched closedStore (.bare ["w"])).1 = .error (.transport "down") := by
    decide +kernel
  have outcome : ((fetch (.bare ["w"])).run (Fault.interpose Memory.Store.respond)
      (closedStore, kept)).1 =
        (.error (.transport "down"), (fetched closedStore (.bare ["w"])).2) := Prod.ext fails rfl
  rw [outcome] at goes
  rcases (failed_restore_leaves cellar (.make .s3 none "/a/") "").2 "f" _ _ _ _ goes with
    ⟨-, sameFiles, retries⟩
  have there : (fetched closedStore (.bare ["w"])).2.file? ["w", "f"] = some .empty := by
    decide +kernel
  have opens : StoreTranscript.Opens ((fetch (.bare ["w"])).transcript
      (Fault.interpose Memory.Store.respond) (closedStore, kept)) := by
    by_contra opensNot
    have nothing := sameFiles.mpr opensNot ["w", "f"]
    rw [there] at nothing
    exact absurd nothing (by decide +kernel)
  exact ⟨_, goes, opens, fun again result last retried => (retries opens again result last retried).1⟩

/-- A restore that fails when the object is opened leaves an empty file, and one whose stream breaks
off leaves the chunk before; tried again at a store that answers everything, both are refused. -/
theorem failed_restore_blocks_retry :
    (Local.Tree.bare ["w"]).file? ["w", "f"] = none ∧
      (fetched closedStore (.bare ["w"])).1 = .error (.transport "down") ∧
      (fetched closedStore (.bare ["w"])).2.file? ["w", "f"] = some .empty ∧
      (fetched [] (fetched closedStore (.bare ["w"])).2).1 = .error (.io .alreadyExists) ∧
      (fetched brokenStream (.bare ["w"])).1 = .error (.transfer "a/f" (.io Fault.readFailure)) ∧
      (fetched brokenStream (.bare ["w"])).2.file? ["w", "f"] = some (.mk #[1, 2]) ∧
      (fetched [] (fetched brokenStream (.bare ["w"])).2).1 = .error (.io .alreadyExists) := by
  refine ⟨?_, ?_, ?_, ?_, ?_, ?_, ?_⟩ <;> decide +kernel

end Repository

end Depot
