import Depot.Client.Call

/-!
An object store held in memory. Objects are kept in the order of their keys, which is the order in
which they are listed.
-/

namespace Depot.Memory

structure StoredObject where
  data : ByteArray
  /-- Whether the object is a directory marker. -/
  isDirectory : Bool

def StoredObject.marker : StoredObject := ⟨.empty, true⟩

structure Store where
  objects : SortedMap StoredObject
  /-- The most entries on one page of a listing. -/
  pageSize : Nat
  pageSize_pos : 0 < pageSize
  /-- Whether delimiters at the end of a lead are ignored when keys are looked for. -/
  loose : Bool

namespace Store

/-- The size of a page if nothing else is said. -/
def defaultPageSize : Nat := 1000

def empty : Store := ⟨.empty, defaultPageSize, by decide, false⟩

/-- The same objects on pages of another size; zero counts as one. -/
def withPageSize (store : Store) (size : Nat) : Store :=
  { store with pageSize := max size 1, pageSize_pos := by omega }

def find? (store : Store) (key : ObjectKey) : Option StoredObject := store.objects.find? key.text

def put (store : Store) (key : ObjectKey) (object : StoredObject) : Store :=
  { store with objects := store.objects.insert key.text object }

/-- Store bytes as a regular object. -/
def insert (store : Store) (key : ObjectKey) (data : ByteArray) : Store :=
  store.put key ⟨data, false⟩

def erase (store : Store) (key : ObjectKey) : Store :=
  { store with objects := store.objects.erase key.text }

def keys (store : Store) : List String := store.objects.keys

def eraseAll (store : Store) (keys : List ObjectKey) : Store := keys.foldl erase store

/-- The keys among some that no object is stored at. -/
def missing (store : Store) (keys : List ObjectKey) : List ObjectKey :=
  keys.filter fun key => (store.find? key).isNone

end Store

end Depot.Memory
