import Depot.Memory.Store

/-!
What a store in memory holds after each of its operations, key by key. Two stores with the same
settings that hold the same are equal.
-/

namespace Depot.Memory.Store

variable {store : Store} {key sought : ObjectKey}

theorem text_eq_iff {left right : ObjectKey} : left.text = right.text ↔ left = right := by
  cases left
  cases right
  simp

theorem find?_put (object : StoredObject) :
    (store.put key object).find? sought =
      if key = sought then some object else store.find? sought := by
  simp only [find?, put, SortedMap.find?_insert, text_eq_iff]

@[simp] theorem find?_put_self (object : StoredObject) :
    (store.put key object).find? key = some object := by
  simp [find?_put]

theorem find?_put_of_ne (object : StoredObject) (different : key ≠ sought) :
    (store.put key object).find? sought = store.find? sought := by
  simp [find?_put, different]

theorem find?_erase :
    (store.erase key).find? sought = if key = sought then none else store.find? sought := by
  simp only [find?, erase, SortedMap.find?_erase, text_eq_iff]

theorem find?_eraseAll {keys : List ObjectKey} :
    (store.eraseAll keys).find? sought = if sought ∈ keys then none else store.find? sought := by
  induction keys generalizing store with
  | nil => simp [eraseAll]
  | cons first keys induction =>
      rw [eraseAll, List.foldl_cons, ← eraseAll, induction, find?_erase]
      by_cases here : first = sought
      · simp [here]
      · simp [here, Ne.symm here]

@[simp] theorem pageSize_eraseAll (store : Store) (keys : List ObjectKey) :
    (store.eraseAll keys).pageSize = store.pageSize := by
  induction keys generalizing store with
  | nil => rfl
  | cons first keys induction => exact induction (store.erase first)

@[simp] theorem loose_eraseAll (store : Store) (keys : List ObjectKey) :
    (store.eraseAll keys).loose = store.loose := by
  induction keys generalizing store with
  | nil => rfl
  | cons first keys induction => exact induction (store.erase first)

theorem ext_find? {left right : Store} (samePages : left.pageSize = right.pageSize)
    (sameFilter : left.loose = right.loose) (same : ∀ key, left.find? key = right.find? key) :
    left = right := by
  cases left
  cases right
  cases samePages
  cases sameFilter
  congr 1
  apply SortedMap.ext
  intro text
  exact same ⟨text⟩

theorem mem_keys_iff {text : String} :
    text ∈ store.keys ↔ ∃ object, store.find? ⟨text⟩ = some object :=
  SortedMap.mem_keys_iff

end Depot.Memory.Store

namespace Depot

/-! ## Sets of texts and keys -/

theorem find?_ofList_units {texts : List String} {text : String} :
    (SortedMap.ofList (texts.map fun text => (text, ()))).find? text =
      if text ∈ texts then some () else none := by
  have lookup (texts : List String) :
      (texts.map fun text => (text, ())).lookup text = if text ∈ texts then some () else none := by
    induction texts with
    | nil => rfl
    | cons first texts induction =>
        rw [List.map_cons, List.lookup_cons, induction]
        by_cases here : text = first
        · simp [here]
        · simp [here, beq_false_of_ne here]
  rw [SortedMap.find?_ofList, ← List.map_reverse, lookup]
  simp

theorem mem_sortedDistinct {texts : List String} {text : String} :
    text ∈ sortedDistinct texts ↔ text ∈ texts := by
  rw [sortedDistinct, SortedMap.mem_keys_iff, find?_ofList_units]
  by_cases member : text ∈ texts <;> simp [member]

theorem sortedDistinct_increasing (texts : List String) :
    (sortedDistinct texts).Pairwise (· < ·) :=
  SortedMap.keys_increasing _

/-- Texts in order are the same if they are taken from the same ones. -/
theorem sortedDistinct_congr {left right : List String}
    (same : ∀ text, text ∈ left ↔ text ∈ right) : sortedDistinct left = sortedDistinct right := by
  rw [sortedDistinct, sortedDistinct]
  congr 1
  apply SortedMap.ext
  intro text
  simp only [find?_ofList_units, same]

theorem mem_toKeys_ofKeys {keys : List ObjectKey} {key : ObjectKey} :
    key ∈ (KeySet.ofKeys keys).toKeys ↔ key ∈ keys := by
  have same : SortedMap.keys (KeySet.ofKeys keys) = sortedDistinct (keys.map ObjectKey.text) := by
    rw [sortedDistinct, List.map_map]
    rfl
  rw [KeySet.toKeys, same]
  constructor
  · intro member
    rcases List.mem_map.mp member with ⟨text, inOrder, rfl⟩
    rcases List.mem_map.mp (mem_sortedDistinct.mp inOrder) with ⟨other, among, same⟩
    cases same
    exact among
  · intro member
    apply List.mem_map.mpr
    exact ⟨key.text, mem_sortedDistinct.mpr (List.mem_map_of_mem member), rfl⟩

end Depot
