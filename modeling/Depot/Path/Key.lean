import Depot.Error

/-!
Keys of the flat object store. A key is any text; `/` divides it into levels, a key that ends in
`/` has the form of a directory, and the empty key is the root. Keys are ordered as their texts,
which is the order of their UTF-8 bytes.
-/

namespace Depot

/-- The character between the levels of a path or key. -/
def delimiter : Char := '/'

structure ObjectKey where
  text : String
  deriving DecidableEq, Repr

namespace ObjectKey

instance : LT ObjectKey where
  lt left right := left.text < right.text

instance (left right : ObjectKey) : Decidable (left < right) :=
  inferInstanceAs (Decidable (left.text < right.text))

def root : ObjectKey := ⟨""⟩

/-- The empty key, and the key that is a single delimiter. -/
def isRoot (key : ObjectKey) : Bool := key.text == "" || key.text == "/"

def isDirectoryForm (key : ObjectKey) : Bool := Text.endsWith delimiter key.text.toList

/-- The key with a delimiter at its end; the root becomes empty. -/
def asDirectory (key : ObjectKey) : ObjectKey :=
  if key.isRoot then root
  else if key.isDirectoryForm then key
  else ⟨key.text ++ "/"⟩

/-- The key without the delimiters at its end. -/
def trimDirectory (key : ObjectKey) : ObjectKey :=
  ⟨String.ofList (Text.trimEnd delimiter key.text.toList)⟩

/-- The key itself, if it can name a file: not the root, and no delimiter at the end. -/
def asFile (key : ObjectKey) : Except RepoError ObjectKey :=
  if key.isRoot then .error (.invalidPath "path cannot be empty")
  else if key.isDirectoryForm then
    .error (.invalidPath ("path for file can't end with '/': " ++ key.text))
  else .ok key

/-- The directory that encloses the key; a key without an inner delimiter has none. -/
def parent? (key : ObjectKey) : Option ObjectKey :=
  (Text.throughLast? delimiter (Text.trimEnd delimiter key.text.toList)).map
    fun directory => ⟨String.ofList directory⟩

example : parent? ⟨"a/b/c"⟩ = some ⟨"a/b/"⟩ := by decide

example : parent? ⟨"a/b/"⟩ = some ⟨"a/"⟩ := by decide

example : parent? ⟨"a/"⟩ = none := by decide

/-! A parent is shorter than its key, so walking upwards comes to an end. -/

def length (key : ObjectKey) : Nat := key.text.toList.length

theorem length_parent_lt {key above : ObjectKey} (parent : key.parent? = some above) :
    above.length < key.length := by
  rcases Option.map_eq_some_iff.mp parent with ⟨directory, found, rfl⟩
  rw [length, String.toList_ofList]
  exact Text.length_lt_of_throughLast?_trimEnd found

/-- The directories that enclose the key, the innermost first. -/
def ancestors (key : ObjectKey) : List ObjectKey :=
  match found : key.parent? with
  | none => []
  | some above =>
      have := length_parent_lt found
      above :: above.ancestors
termination_by key.length

end ObjectKey

end Depot
