import Depot.Proofs.ByteOrder
import Depot.Proofs.Deletion

/-!
The contents of a directory, said by the stored keys alone. A key below the directory stands for a
file if no delimiter follows the lead, and otherwise for the directory that the first delimiter
ends. A listing gives these names, each once and in the order of their bytes, and neither the pages
nor the filter of the store leave a trace in it.
-/

namespace Depot.Directory

open Memory

variable {lead key name : String}

/-- Whether a key below a lead stands for a child of the given name: the rest of the key, or of a
rest with a delimiter everything up to the first one and that delimiter itself. -/
inductive StandsFor (lead : String) : (key name : String) → Prop
  | file {name : String} (nonempty : name ≠ "") (plain : delimiter ∉ name.toList) :
      StandsFor lead (lead ++ name) name
  | directory {name : String} (plain : delimiter ∉ name.toList) (rest : String) :
      StandsFor lead (lead ++ name ++ "/" ++ rest) (name ++ "/")

theorem ne_empty_of_child? (child : child? lead key = some name) : name ≠ "" := by
  rcases child?_eq_some_iff.mp child with ⟨rest, something, -, rfl⟩
  rw [ne_eq, ← String.toList_eq_nil_iff, String.toList_ofList]
  cases found : Text.throughFirst? delimiter rest with
  | none => exact something
  | some kept => exact List.ne_nil_of_mem (Text.mem_of_throughFirst? found)

theorem child?_eq_some_iff_standsFor : child? lead key = some name ↔ StandsFor lead key name := by
  constructor
  · intro child
    rcases exists_name_of_child? child with ⟨front, plain, rfl | rfl⟩
    · have nonempty := ne_empty_of_child? child
      rw [(child?_eq_some_file_iff nonempty plain).mp child]
      exact .file nonempty plain
    · have starts := (child?_eq_some_directory_iff plain).mp child
      rcases Text.startsWith_iff.mp starts with ⟨rest, whole⟩
      have isKey : key = lead ++ front ++ "/" ++ String.ofList rest := by
        rw [← String.toList_inj, String.toList_append, String.toList_ofList, whole]
      rw [isKey]
      exact .directory plain _
  · intro standsFor
    cases standsFor with
    | file nonempty plain => exact (child?_eq_some_file_iff nonempty plain).mpr rfl
    | directory plain rest =>
        apply (child?_eq_some_directory_iff plain).mpr
        exact Text.startsWith_iff.mpr ⟨rest.toList, String.toList_append⟩

/-- The children of a directory depend on the stored objects alone: they are the names that the keys
below its trimmed key stand for, each once and in the order of their bytes. A repository of either
layout lists them, if it is open and its limit leaves room for a page for each key. -/
theorem children_exact (objects : SortedMap StoredObject) (key : ObjectKey) :
    let trimmed := key.trimDirectory.text
    let lead := if trimmed = "" then "" else trimmed ++ "/"
    ∃ names : List String,
      names.Pairwise (fun left right => Text.bytes left < Text.bytes right) ∧
      (∀ name, name ∈ names ↔ ∃ stored ∈ objects.keys, StandsFor lead stored name) ∧
      ∀ (store : Store) (limit : Nat), store.objects = objects → objects.keys.length < limit →
        store.run (children limit key).run = (.ok names, store) ∧
        ∀ {Handle : Type} (repository : Repository Handle) (path : LogicalPath),
          repository.client.isSome = true → repository.pageLimit = limit →
          Namespace.objectKey path = key →
          store.run (repository.listAll path).run = (.ok names, store) := by
  intro trimmed lead
  have isLead : key.trimDirectory.asDirectory.text = lead :=
    ObjectKey.text_asDirectory_trimDirectory key
  refine ⟨sortedDistinct (objects.keys.filterMap (child? lead)), ?_, ?_, ?_⟩
  · exact (sortedDistinct_increasing _).imp Text.bytes_lt_bytes_iff.mpr
  · intro name
    simp only [mem_sortedDistinct, List.mem_filterMap, child?_eq_some_iff_standsFor]
  · intro store limit isObjects few
    subst isObjects
    constructor
    · rcases yields_children (.fresh store) limit key with ⟨value, listed, endless, whole⟩
      cases value with
      | error error => exact absurd few (Nat.not_lt.mpr (endless error rfl).2)
      | ok names =>
          have isNames := whole names rfl
          rw [isLead] at isNames
          subst isNames
          exact listed.run_eq
    · intro Handle repository path ready isLimit isKey
      subst isLimit isKey
      have listed : Yields (repository.listAll path) (.fresh store) _ (.fresh store) :=
        Repository.yields_listAll ready few
      rw [isLead] at listed
      exact listed.run_eq

/-! A store with one entry on a page, which ignores delimiters at the end of a lead. It holds a
file, directories of that name with a marker and without a name, and a sibling. -/

private def pantry : Store where
  objects := .ofList (["a", "a/", "a//b", "a/b", "a/b/c", "a/b/d", "a/é", "ab", "b"].map
    fun text => (text, ⟨.empty, false⟩))
  pageSize := 1
  pageSize_pos := by decide
  loose := true

theorem children_exact_pantry :
    pantry.run (children 10 ⟨"a//"⟩).run = (.ok ["/", "b", "b/", "é"], pantry) ∧
      ∀ name, name ∈ ["/", "b", "b/", "é"] ↔
        ∃ stored ∈ pantry.keys, StandsFor "a/" stored name := by
  rcases children_exact pantry.objects ⟨"a//"⟩ with ⟨names, -, isExact, runs⟩
  have listed := (runs pantry 10 rfl (by decide +kernel)).1
  have isNames : (pantry.run (children 10 ⟨"a//"⟩).run).1 = .ok ["/", "b", "b/", "é"] := by
    decide +kernel
  rw [listed] at isNames
  cases isNames
  exact ⟨listed, isExact⟩

end Depot.Directory
