import Depot.Repository
import Depot.Proofs.Locations
import Depot.Proofs.Markers
import Depot.Proofs.Upload

/-!
A backup happens as a whole or not at all. Whatever calls fail and however the source breaks off, a
backup that fails leaves every object alone and adds at most empty markers at the directories around
the key that it would have written; one that succeeds has stored the bytes of the source at that key,
and nothing else has changed but for such markers.
-/

namespace Depot.Repository

open Memory Dialogue

variable {Handle : Type} {before after : Watched}

/-- Making the directory of a key adds markers at ancestors of the key only. -/
theorem run_createParent {layout : Namespace} {key : ObjectKey} {result : Except RepoError Unit}
    (run : Run Answered (createParent layout key).run before result after) (other : ObjectKey) :
    Kept (fun marked => layout = .hierarchical ∧ marked ∈ key.ancestors)
      before.store after.store other := by
  rw [createParent] at run
  split at run
  · rcases Run.pure_iff.mp run with ⟨-, rfl⟩
    exact .refl _ _ _
  next parent found =>
    refine (Directory.run_create run other).mono ?_
    intro given
    rcases given with ⟨hierarchical, notRoot, isAbove⟩
    refine ⟨hierarchical, ?_⟩
    rw [ObjectKey.ancestors_of_parent? found]
    rcases ObjectKey.asDirectory_parent found with same | root
    · rw [same] at isAbove
      exact List.mem_cons.mpr isAbove
    · rw [root, ObjectKey.ancestors_of_isRoot ObjectKey.isRoot_root] at isAbove
      rcases isAbove with rfl | member
      · cases notRoot
      · cases member

theorem keyBelow_eq_ok {repository : Repository Handle} {path : LogicalPath} {name : String}
    {key : ObjectKey}
    (atKey : repository.keyBelow path name = .ok key) :
    repository.layout.resolve path [name] = .ok (repository.layout.joined path name) ∧
      Namespace.fileKey (repository.layout.joined path name) = .ok key := by
  rcases bind_eq_ok_iff.mp atKey with ⟨file, resolved, isKey⟩
  rw [← Namespace.resolve_eq_ok resolved]
  exact ⟨resolved, isKey⟩

theorem keyBelow_isFile {repository : Repository Handle} {path : LogicalPath} {name : String}
    {key : ObjectKey} (found : repository.keyBelow path name = .ok key) :
    key.isRoot = false ∧ key.isDirectoryForm = false :=
  (Namespace.objectKey_of_fileKey (keyBelow_eq_ok found).2).2

theorem isSome_of_requireClient {repository : Repository Handle} {value : Unit}
    (required : repository.requireClient = .ok value) : repository.client.isSome = true := by
  rw [requireClient] at required
  split at required
  · assumption
  · cases required

theorem requireName_eq_ok_iff {name message : String} {value : Unit} :
    requireName name message = .ok value ↔ name ≠ "" := by
  rw [requireName]
  by_cases nothing : name = ""
  · simp [nothing]
  · simp [nothing]

theorem requireNames_eq_ok_iff {source target : String} :
    requireNames source target = .ok () ↔ source ≠ "" ∧ target ≠ "" := by
  rw [requireNames, bind_eq_ok_iff]
  simp [requireName_eq_ok_iff]

theorem prepare_eq_ok {repository : Repository Handle} {source : IndexSource}
    {sourceName targetName : String} {target : LogicalPath} {key : ObjectKey} {input : IndexInput}
    (prepared : repository.prepare source sourceName target targetName = .ok (key, input)) :
    targetName ≠ "" ∧ repository.keyBelow target targetName = .ok key ∧
      repository.client.isSome = true ∧ source.openInput sourceName = .ok input ∧
      source.footerLength < input.length := by
  rcases bind_eq_ok_iff.mp prepared with ⟨_, named, prepared⟩
  rcases bind_eq_ok_iff.mp prepared with ⟨found, located, prepared⟩
  rcases bind_eq_ok_iff.mp prepared with ⟨_, required, prepared⟩
  rcases bind_eq_ok_iff.mp prepared with ⟨file, opened, checked⟩
  split at checked
  · cases checked
  next longer =>
    cases checked
    exact ⟨(requireNames_eq_ok_iff.mp named).2, located, isSome_of_requireClient required, opened,
      Nat.lt_of_not_le longer⟩

/-- How a backup can go: it is refused before the store is asked for anything, or it makes the
directories around its key and then fails, or stores the bytes of the source behind that. -/
theorem run_copyFrom {repository : Repository Handle} {source : IndexSource}
    {sourceName targetName : String} {target : LogicalPath} {result : Except RepoError Unit}
    (run : Run Answered (repository.copyFrom source sourceName target targetName).run before
      result after) :
    (result ≠ .ok () ∧ after = before) ∨
      ∃ key input marked, repository.prepare source sourceName target targetName =
          .ok (key, input) ∧
        (∀ other, Kept (fun marker => repository.layout = .hierarchical ∧ marker ∈ key.ancestors)
          before.store marked other) ∧
        ((result ≠ .ok () ∧ after.store = marked) ∨
          (result = .ok () ∧ input.length ≤ input.reader.remaining ∧
            after.store = marked.insert key input.content)) := by
  rw [copyFrom] at run
  rcases Run.bind_iff.mp run with ⟨error, checked, rfl⟩ | ⟨⟨key, input⟩, middle, checked, rest⟩
  · exact .inl ⟨by simp, (Run.liftExcept_iff.mp checked).2⟩
  rcases Run.liftExcept_iff.mp checked with ⟨prepared, rfl⟩
  simp only at rest
  rcases Run.bind_iff.mp rest with ⟨error, parents, rfl⟩ | ⟨_, marked, parents, rest⟩
  · exact .inr ⟨key, input, after.store, prepared.symm, run_createParent parents,
      .inl ⟨by simp, rfl⟩⟩
  refine .inr ⟨key, input, marked.store, prepared.symm, run_createParent parents, ?_⟩
  rcases Run.bind_iff.mp rest with ⟨error, upload, rfl⟩ | ⟨size, last, upload, rest⟩
  · exact .inl ⟨by simp, (Transfer.run_intoStore upload).1 error rfl⟩
  · rcases Run.pure_iff.mp rest with ⟨rfl, rfl⟩
    rcases (Transfer.run_intoStore upload).2 size rfl with ⟨-, there, stored⟩
    exact .inr ⟨rfl, there, stored⟩

/-- Where a backup may put a marker: at the directories around its key, in the hierarchical
namespace, and only if the source is longer than its record. -/
def MayMark (repository : Repository Handle) (source : IndexSource) (sourceName : String)
    (target : LogicalPath) (targetName : String) (marked : ObjectKey) : Prop :=
  repository.layout = .hierarchical ∧
    (∃ key, repository.keyBelow target targetName = .ok key ∧
      marked ∈ key.ancestors ∧ marked.Encloses key) ∧
    ∃ input, source.openInput sourceName = .ok input ∧ source.footerLength < input.length

/-- A backup that fails changes nothing but for markers around its key. A backup that succeeds has
stored the bytes of the source. -/
theorem copyFrom_all_or_nothing (repository : Repository Handle) (source : IndexSource)
    (sourceName : String) (target : LogicalPath) (targetName : String)
    {result : Except RepoError Unit}
    (run : Run Answered (repository.copyFrom source sourceName target targetName).run
      before result after) :
    (∀ error, result = .error error → ∀ other,
      Kept (repository.MayMark source sourceName target targetName)
        before.store after.store other) ∧
    (result = .ok () → ∃ key input,
      repository.keyBelow target targetName = .ok key ∧
      source.openInput sourceName = .ok input ∧ input.length ≤ input.reader.remaining ∧
      after.store.find? key = some ⟨input.content, false⟩ ∧
      ∀ other, other ≠ key →
        Kept (repository.MayMark source sourceName target targetName)
          before.store after.store other) := by
  rcases run_copyFrom run with ⟨failed, rfl⟩ | ⟨key, input, marked, prepared, around, ending⟩
  · exact ⟨fun _ _ => .refl _ _, fun success => absurd success failed⟩
  rcases prepare_eq_ok prepared with ⟨-, atKey, -, opened, longer⟩
  have kept (other : ObjectKey) : Kept (repository.MayMark source sourceName target targetName)
      before.store marked other := by
    apply (around other).mono
    intro given
    rcases given with ⟨hierarchical, isAncestor⟩
    exact ⟨hierarchical, ⟨key, atKey, isAncestor, ObjectKey.encloses_of_mem_ancestors isAncestor⟩,
      input, opened, longer⟩
  rcases ending with ⟨failed, left⟩ | ⟨rfl, there, stored⟩
  · rw [left]
    exact ⟨fun _ _ => kept, fun success => absurd success failed⟩
  · refine ⟨by simp, fun _ => ⟨key, input, atKey, opened, there, ?_, fun other different => ?_⟩⟩
    · rw [stored, Store.insert, Store.find?_put_self]
    · rw [Kept, stored, Store.insert, Store.find?_put_of_ne _ (Ne.symm different)]
      exact kept other

/-! A backup whose second write fails, onto a key that is taken, on a store that has only one of the
directories around it. -/

private def reset : Fault where
  kind := .write
  subject := none
  nth := some 2
  error := .transport "reset"
  after := 0
  matched := 0

private def archive : Repository Unit := ⟨.hierarchical, 4, 10, .empty, some ()⟩

private def segments : IndexSource where
  openInput name := .ok ⟨name, 22, (Reader.ofBytes (Footer.sealed "body 1".toUTF8)).withPace 3⟩
  footerLength := 16

private def stocked : Store := (Store.empty.put ⟨"a/"⟩ .marker).insert ⟨"a/b/f"⟩ "old".toUTF8

theorem copyFrom_all_or_nothing_reset :
    ∃ result after,
      Run Answered (archive.copyFrom segments "f" (.make .s3 none "a/b") "f").run (.fresh stocked)
        result after ∧
      succeeded result = false ∧ after.store.keys = ["a/", "a/b/", "a/b/f"] ∧
      after.store.find? ⟨"a/b/f"⟩ = stocked.find? ⟨"a/b/f"⟩ := by
  have plain : IsPlain [reset] := by simp [IsPlain, reset]
  rcases run_of_interpose plain (archive.copyFrom segments "f" (.make .s3 none "a/b") "f").run
    stocked with ⟨after, run, sameStore⟩
  have failed : succeeded ((archive.copyFrom segments "f" (.make .s3 none "a/b") "f").run.run
      (Fault.interpose Store.respond) ([reset], stocked)).1 = false := by decide +kernel
  refine ⟨_, after, run, failed, ?_, ?_⟩
  · rw [sameStore]
    decide +kernel
  · have something : (stocked.find? ⟨"a/b/f"⟩).isSome = true := by decide +kernel
    rcases Option.isSome_iff_exists.mp something with ⟨object, stored⟩
    have whole := copyFrom_all_or_nothing archive segments "f" (.make .s3 none "a/b") "f" run
    rw [stored]
    cases outcome : ((archive.copyFrom segments "f" (.make .s3 none "a/b") "f").run.run
        (Fault.interpose Store.respond) ([reset], stocked)).1 with
    | ok => rw [outcome] at failed; cases failed
    | error error => exact (whole.1 error outcome ⟨"a/b/f"⟩).find?_eq_some stored

end Depot.Repository
