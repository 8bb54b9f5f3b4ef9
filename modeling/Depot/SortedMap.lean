import Std.Data.ExtTreeMap

/-!
Finite maps from texts, kept in the order of their keys. The order of keys is that of their
characters, which is also the order of their UTF-8 bytes. The map is described by `find?`: two maps
that find the same are equal, and each operation says what it does to `find?`.
-/

namespace Depot

structure SortedMap (Value : Type) where
  tree : Std.ExtTreeMap String Value

namespace SortedMap

variable {Value : Type}

def empty : SortedMap Value := ⟨∅⟩

/-- The map with a value at a key, instead of the value that may be there. -/
def insert (map : SortedMap Value) (key : String) (value : Value) : SortedMap Value :=
  ⟨map.tree.insert key value⟩

def erase (map : SortedMap Value) (key : String) : SortedMap Value := ⟨map.tree.erase key⟩

def find? (map : SortedMap Value) (key : String) : Option Value := map.tree[key]?

def contains (map : SortedMap Value) (key : String) : Bool := (map.find? key).isSome

/-- The keys and their values, in increasing order of the keys. -/
def entries (map : SortedMap Value) : List (String × Value) := map.tree.toList

def keys (map : SortedMap Value) : List String := map.tree.keys

/-- The map of a list of entries; of two entries with one key the later counts. -/
def ofList (entries : List (String × Value)) : SortedMap Value :=
  entries.foldl (fun map entry => map.insert entry.1 entry.2) empty

/-! ## Equal maps -/

theorem ext {left right : SortedMap Value}
    (same : ∀ key, left.find? key = right.find? key) : left = right := by
  cases left with
  | mk left =>
      cases right with
      | mk right => exact congrArg SortedMap.mk (Std.ExtTreeMap.ext_getElem? same)

/-! ## What is found -/

@[simp] theorem find?_empty (sought : String) : (empty : SortedMap Value).find? sought = none :=
  Std.ExtTreeMap.getElem?_empty

theorem find?_insert (map : SortedMap Value) (key : String) (value : Value) (sought : String) :
    (map.insert key value).find? sought =
      if key = sought then some value else map.find? sought := by
  simp only [find?, insert, Std.ExtTreeMap.getElem?_insert, Std.compare_eq_iff_eq]

theorem find?_insert_of_ne (map : SortedMap Value) {key sought : String} (value : Value)
    (different : key ≠ sought) : (map.insert key value).find? sought = map.find? sought := by
  simp [find?_insert, different]

theorem find?_erase (map : SortedMap Value) (key sought : String) :
    (map.erase key).find? sought = if key = sought then none else map.find? sought := by
  simp only [find?, erase, Std.ExtTreeMap.getElem?_erase, Std.compare_eq_iff_eq]

/-- Of the entries with a key the last one is found. -/
theorem find?_ofList (entries : List (String × Value)) (key : String) :
    (ofList entries).find? key = entries.reverse.lookup key := by
  have added (map : SortedMap Value) :
      (entries.foldl (fun map entry => map.insert entry.1 entry.2) map).find? key =
        (entries.reverse.lookup key).or (map.find? key) := by
    induction entries generalizing map with
    | nil => rfl
    | cons entry entries induction =>
        rcases entry with ⟨first, value⟩
        have single : (map.insert first value).find? key =
            (List.lookup key [(first, value)]).or (map.find? key) := by
          rw [find?_insert, List.lookup_cons, List.lookup_nil]
          by_cases here : first = key
          · simp [here]
          · simp [here, beq_false_of_ne (Ne.symm here)]
        rw [List.foldl_cons, induction, single, List.reverse_cons, List.lookup_append,
          Option.or_assoc]
  rw [ofList, added, find?_empty, Option.or_none]

/-! ## Entries and keys -/

theorem mem_entries_iff {map : SortedMap Value} {key : String} {value : Value} :
    (key, value) ∈ map.entries ↔ map.find? key = some value :=
  Std.ExtTreeMap.mem_toList_iff_getElem?_eq_some

theorem keys_eq_map_entries (map : SortedMap Value) : map.keys = map.entries.map Prod.fst :=
  Std.ExtTreeMap.map_fst_toList_eq_keys.symm

theorem mem_keys_iff {map : SortedMap Value} {key : String} :
    key ∈ map.keys ↔ ∃ value, map.find? key = some value := by
  simp [keys_eq_map_entries, mem_entries_iff]

theorem keys_increasing (map : SortedMap Value) : map.keys.Pairwise (· < ·) := by
  have ordered : map.keys.Pairwise fun left right => compare left right = .lt :=
    Std.ExtTreeMap.ordered_keys
  exact ordered.imp fun less => compareOfLessAndEq_eq_lt.mp less

end SortedMap

end Depot
