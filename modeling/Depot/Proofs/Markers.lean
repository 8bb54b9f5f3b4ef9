import Depot.Proofs.Failures
import Depot.Proofs.Objects
import Depot.Proofs.Upkeep

/-!
Making directories only adds. Whatever calls fail, the objects that were stored stay as they are,
and the new ones are empty markers at the directory and its ancestors. The walk upwards collects
keys where nothing is stored, and the markers are put at these keys only.
-/

namespace Depot.Memory

/-- Whether a key holds what it held before, or holds an empty marker where nothing was and a
marker may come. -/
def Kept (mayMark : ObjectKey → Prop) (before after : Store) (key : ObjectKey) : Prop :=
  after.find? key = before.find? key ∨
    (mayMark key ∧ before.find? key = none ∧ after.find? key = some .marker)

namespace Kept

variable {mayMark : ObjectKey → Prop} {before middle after : Store} {key : ObjectKey}

theorem refl (mayMark : ObjectKey → Prop) (store : Store) (key : ObjectKey) :
    Kept mayMark store store key :=
  .inl rfl

theorem mono {mayAlso : ObjectKey → Prop} (kept : Kept mayMark before after key)
    (weaker : mayMark key → mayAlso key) : Kept mayAlso before after key :=
  kept.imp_right fun ⟨may, absent, marked⟩ => ⟨weaker may, absent, marked⟩

/-- A stored object stays. -/
theorem find?_eq_some {object : StoredObject} (kept : Kept mayMark before after key)
    (stored : before.find? key = some object) : after.find? key = some object := by
  rcases kept with same | ⟨-, absent, -⟩
  · exact same.trans stored
  · rw [absent] at stored
    cases stored

/-- One more marker where nothing was before. -/
theorem put_marker {marked : ObjectKey} (kept : Kept mayMark before middle key)
    (may : mayMark marked) (absent : before.find? marked = none) :
    Kept mayMark before (middle.put marked .marker) key := by
  by_cases here : marked = key
  · subst here
    exact .inr ⟨may, absent, Store.find?_put_self _⟩
  · rw [Kept, Store.find?_put_of_ne _ here]
    exact kept

end Kept

/-! ## Directories that a store lacks -/

namespace Store

/-- The directories from one upwards that nothing is stored at, up to the first that is a root or is
stored. -/
def lacking (store : Store) (directory : ObjectKey) : List ObjectKey :=
  (directory :: directory.ancestors).takeWhile fun key => !key.isRoot && (store.find? key).isNone

variable {store : Store} {key : ObjectKey}

theorem lacking_of_isRoot (isRoot : key.isRoot = true) : store.lacking key = [] := by
  rw [lacking, List.takeWhile_cons]
  simp [isRoot]

theorem lacking_of_stored {object : StoredObject} (stored : store.find? key = some object) :
    store.lacking key = [] := by
  rw [lacking, List.takeWhile_cons]
  simp [stored]

theorem lacking_of_absent (notRoot : key.isRoot = false) (absent : store.find? key = none) :
    store.lacking key = key :: match key.parent? with
      | none => []
      | some above => store.lacking above := by
  rw [lacking, List.takeWhile_cons, ObjectKey.ancestors_eq]
  cases parent : key.parent? <;> simp [notRoot, absent, lacking]

end Store

end Depot.Memory

namespace Depot.Directory

open Memory Dialogue

variable {before after : Watched}

/-- Making directories adds markers, where nothing was, to one directory and its ancestors. -/
def adding (original : Store) (directory : ObjectKey) : Upkeep (.alone Answered) where
  invariant watched := ∀ key, Kept (fun marked => marked.isRoot = false ∧
    (marked = directory ∨ marked ∈ directory.ancestors)) original watched.store key
  isNear key := key = directory ∨ key ∈ directory.ancestors
  isFree key := (key = directory ∨ key ∈ directory.ancestors) ∧ key.isRoot = false ∧
    original.find? key = none
  isSettled _ _ := True
  canFail := True
  stays := .alone _
  settledStays _ := .alone _
  root _ := trivial
  head := by
    intro key before reply after kept isNear notRoot answered
    rcases answered.head with ⟨rfl, rfl⟩ | ⟨error, plain, rfl, rfl⟩
    · refine ⟨trivial, kept, fun _ _ => trivial, ?_, fun _ _ => .inr trivial⟩
      intro text absent
      cases stored : original.find? key with
      | none => exact ⟨isNear, notRoot, rfl⟩
      | some object =>
          rw [Store.look, (kept key).find?_eq_some stored] at absent
          cases absent
    · refine ⟨trivial, kept, fun _ _ => trivial, ?_, fun _ _ => .inr trivial⟩
      intro text absent
      cases absent
      cases plain
  up isFree parent := .inr (ObjectKey.mem_ancestors_of_parent? isFree.1 parent)
  put := by
    intro key before reply after kept isFree _ answered
    refine ⟨trivial, ?_, fun _ => trivial, fun _ _ => trivial⟩
    cases answered with
    | served => exact fun other => (kept other).put_marker ⟨isFree.2.1, isFree.1⟩ isFree.2.2
    | refused => exact kept

/-- Making a directory leaves every stored object alone. In the flat namespace nothing happens at
all, and in the hierarchical one markers come only to the directory and its ancestors. -/
theorem run_create {layout : Namespace} {key : ObjectKey} {result : Except RepoError Unit}
    (run : Run Answered (create layout key).run before result after) (other : ObjectKey) :
    Kept (fun marked => layout = .hierarchical ∧ marked.isRoot = false ∧
        (marked = key.asDirectory ∨ marked ∈ key.asDirectory.ancestors))
      before.store after.store other := by
  cases layout with
  | flat =>
      rcases Run.pure_iff.mp run with ⟨-, rfl⟩
      exact .refl _ _ _
  | hierarchical =>
      have outline := (adding before.store key.asDirectory).outline_create (.inr (.inl rfl))
      have kept := Upkeep.invariant_of_ends _ (outline.run run fun _ => .refl _ _ _)
      exact (kept other).mono fun may => ⟨rfl, may⟩

end Depot.Directory
