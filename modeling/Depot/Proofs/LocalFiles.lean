import Depot.Local.IndexDirectory

/-!
Local files. A place that is vacant has no entry, and the last component of the path that leads there
is a name. An entry that is put there is reached by the same path, so a file that has been created
and written can be opened by the name it was created with, and holds what was written. Making
directories adds directories only, and where they have been made there is nothing left to make; so a
file can be created once, and no second time.
-/

namespace Depot.Local.Tree

variable {tree : Tree} {here names path : List String} {node : Node}

/-! ## Entries -/

theorem node?_put_self (absent : tree.node? names = none) :
    (tree.put names node).node? names = some node := by
  unfold node? at absent ⊢
  split at absent
  · cases absent
  next outside =>
    have outsideToo : ¬(below? names (tree.put names node).working).isSome = true := outside
    rw [if_neg outsideToo]
    exact Std.ExtTreeMap.getElem?_insert_self

theorem node?_put_of_ne {other : List String} (different : names ≠ other) :
    (tree.put names node).node? other = tree.node? other := by
  have sameEntry : (tree.entries.insert names node)[other]? = tree.entries[other]? := by
    rw [Std.ExtTreeMap.getElem?_insert, if_neg]
    intro same
    exact different (Std.compare_eq_iff_eq.mp same)
  unfold node?
  exact congrArg (fun found => if (below? other tree.working).isSome then _ else found) sameEntry

/-! ## Walks -/

theorem walk_of_directory {name : String} {rest : List String}
    (isDirectory : tree.node? here = some .directory) :
    tree.walk here (name :: rest) =
      if name = "." then tree.walk here rest
      else if name = ".." then tree.walk here.dropLast rest
      else if name.utf8ByteSize > longestName then .error .nameTooLong
      else
        match tree.node? (here ++ [name]), rest with
        | some _, rest => tree.walk (here ++ [name]) rest
        | none, [] => .ok (.vacant (here ++ [name]))
        | none, _ :: _ => .error .noSuchEntry := by
  conv => lhs; unfold walk
  rewrite [isDirectory]
  rfl

theorem walk_of_node {found : Node} (isThere : tree.node? here = some found) :
    tree.walk here [] = .ok (.entry here found) := by
  unfold walk
  rw [isThere]

theorem node?_of_walk_vacant (vacant : tree.walk here path = .ok (.vacant names)) :
    tree.node? names = none := by
  fun_induction walk tree here path with
  | case1 here node found => cases vacant
  | case2 here absent => cases vacant
  | case3 here name rest absent => cases vacant
  | case4 here name rest content isFile => cases vacant
  | case5 here rest isDirectory induction => exact induction vacant
  | case6 here rest isDirectory notDot induction => exact induction vacant
  | case7 here name rest isDirectory notDot notUp tooLong => cases vacant
  | case8 here name isDirectory notDot notUp short node found rest induction =>
      exact induction vacant
  | case9 here name isDirectory notDot notUp short absent =>
      cases vacant
      exact absent
  | case10 here name isDirectory notDot notUp short absent next rest => cases vacant

/-- A walk that ends at a vacant place reaches an entry that is put there. -/
theorem walk_put_of_vacant (vacant : tree.walk here path = .ok (.vacant names)) :
    (tree.put names node).walk here path = .ok (.entry names node) := by
  have absent := node?_of_walk_vacant vacant
  -- What the walk passes on its way is there, so it is not the vacant place.
  have passed {place : List String} {found : Node} (isThere : tree.node? place = some found) :
      (tree.put names node).node? place = some found := by
    rw [node?_put_of_ne, isThere]
    intro same
    subst same
    rw [isThere] at absent
    cases absent
  fun_induction walk tree here path with
  | case1 here node found => cases vacant
  | case2 here absent => cases vacant
  | case3 here name rest absent => cases vacant
  | case4 here name rest content isFile => cases vacant
  | case5 here rest isDirectory induction =>
      rw [walk_of_directory (passed isDirectory), if_pos rfl]
      exact induction vacant
  | case6 here rest isDirectory notDot induction =>
      rw [walk_of_directory (passed isDirectory), if_neg notDot, if_pos rfl]
      exact induction vacant
  | case7 here name rest isDirectory notDot notUp tooLong => cases vacant
  | case8 here name isDirectory notDot notUp short found rest isThere induction =>
      rw [walk_of_directory (passed isDirectory), if_neg notDot, if_neg notUp, if_neg short,
        passed isThere]
      exact induction vacant
  | case9 here name isDirectory notDot notUp short absent =>
      cases vacant
      have put : (tree.put (here ++ [name]) node).node? (here ++ [name]) = some node :=
        node?_put_self absent
      rw [walk_of_directory (passed isDirectory), if_neg notDot, if_neg notUp, if_neg short, put]
      exact walk_of_node put
  | case10 here name isDirectory notDot notUp short absent next rest => cases vacant

theorem any_getLast?_cons {first : String} {rest : List String}
    (named : rest.getLast?.any isName = true) : (first :: rest).getLast?.any isName = true := by
  cases isLast : rest.getLast? with
  | none =>
      rw [isLast] at named
      cases named
  | some last =>
      rw [isLast] at named
      rw [List.getLast?_cons, isLast]
      exact named

/-- The way to a vacant place ends with a name. -/
theorem isName_of_walk_vacant (vacant : tree.walk here path = .ok (.vacant names)) :
    path.getLast?.any isName = true := by
  fun_induction walk tree here path with
  | case1 here node found => cases vacant
  | case2 here absent => cases vacant
  | case3 here name rest absent => cases vacant
  | case4 here name rest content isFile => cases vacant
  | case5 here rest isDirectory induction => exact any_getLast?_cons (induction vacant)
  | case6 here rest isDirectory notDot induction => exact any_getLast?_cons (induction vacant)
  | case7 here name rest isDirectory notDot notUp tooLong => cases vacant
  | case8 here name isDirectory notDot notUp short found rest isThere induction =>
      exact any_getLast?_cons (induction vacant)
  | case9 here name isDirectory notDot notUp short absent => simp [isName, notDot, notUp]
  | case10 here name isDirectory notDot notUp short absent next rest => cases vacant

/-- A path that can be used leads to where the walk along it ends. -/
theorem locate_eq_ok_iff {file : String} {place : Place} :
    tree.locate file = .ok place ↔ unusable? file = none ∧ file ≠ "" ∧
      tree.walk (tree.start file) (components file) = .ok place := by
  unfold locate
  cases usable : unusable? file with
  | some cause => simp
  | none =>
      by_cases nothing : file = ""
      · simp [nothing]
      · simp [nothing]

/-! ## Created files -/

theorem put_put (first second : Node) :
    (tree.put names first).put names second = tree.put names second := by
  have same : (tree.entries.insert names first).insert names second =
      tree.entries.insert names second := by
    apply Std.ExtTreeMap.ext_getElem?
    intro other
    rw [Std.ExtTreeMap.getElem?_insert, Std.ExtTreeMap.getElem?_insert,
      Std.ExtTreeMap.getElem?_insert]
    split <;> rfl
  exact congrArg (fun entries => ({ tree with entries } : Tree)) same

theorem createFile_eq_ok {file : String} {grown : Tree}
    (created : tree.createFile file = .ok (names, grown)) :
    namesDirectory file = false ∧ tree.locate file = .ok (.vacant names) ∧
      grown = tree.put names (.file .empty) := by
  unfold createFile at created
  cases isDirectory : namesDirectory file with
  | true =>
      simp only [isDirectory, if_true] at created
      split at created
      · cases created
      · rcases bind_eq_ok_iff.mp created with ⟨_, -, refused⟩
        cases refused
  | false =>
      simp only [isDirectory, Bool.false_eq_true, if_false] at created
      rcases bind_eq_ok_iff.mp created with ⟨place, located, created⟩
      cases place with
      | entry => cases created
      | vacant =>
          cases created
          exact ⟨rfl, located, rfl⟩

theorem node?_of_createFile {file : String} {grown : Tree}
    (created : tree.createFile file = .ok (names, grown)) : tree.node? names = none := by
  rcases createFile_eq_ok created with ⟨-, located, -⟩
  exact node?_of_walk_vacant (locate_eq_ok_iff.mp located).2.2

/-- A path leads to the file that was created by it. -/
theorem locate_of_createFile {file : String} {grown : Tree} (content : ByteArray)
    (created : tree.createFile file = .ok (names, grown)) :
    (tree.put names (.file content)).locate file = .ok (.entry names (.file content)) := by
  rcases createFile_eq_ok created with ⟨-, located, -⟩
  rcases locate_eq_ok_iff.mp located with ⟨usable, something, vacant⟩
  exact locate_eq_ok_iff.mpr ⟨usable, something, walk_put_of_vacant vacant⟩

/-- A file that has been created is opened with what was put in its place. -/
theorem openEntry_of_createFile {file : String} {grown : Tree} {content : ByteArray}
    (created : tree.createFile file = .ok (names, grown)) :
    (grown.put names (.file content)).openEntry file = .ok (.file content) := by
  have found := locate_of_createFile content created
  rcases createFile_eq_ok created with ⟨noDirectory, located, rfl⟩
  rw [namesDirectory, isName_of_walk_vacant (locate_eq_ok_iff.mp located).2.2,
    Bool.and_true] at noDirectory
  rw [put_put]
  simp only [openEntry, found, noDirectory, bind, Except.bind]
  rfl

/-- A file that has been created is not created again. -/
theorem createFile_again {file : String} {grown : Tree} (content : ByteArray)
    (created : tree.createFile file = .ok (names, grown)) :
    (tree.put names (.file content)).createFile file = .error .alreadyExists := by
  have found := locate_of_createFile content created
  rcases createFile_eq_ok created with ⟨noDirectory, -, -⟩
  unfold createFile
  simp only [noDirectory, Bool.false_eq_true, if_false, found]
  rfl

/-! ## Directories on the way -/

/-- The content of a file; a directory has none. -/
def file? (tree : Tree) (names : List String) : Option ByteArray :=
  match tree.node? names with
  | some (.file content) => some content
  | _ => none

theorem file?_put_directory (absent : tree.node? names = none) (other : List String) :
    (tree.put names .directory).file? other = tree.file? other := by
  unfold file?
  by_cases same : names = other
  · subst same
    rw [node?_put_self absent, absent]
  · rw [node?_put_of_ne same]

/-- Making directories leaves every file as it is. -/
theorem file?_createAlong (tree : Tree) (added : Bool) (here path other : List String) :
    (tree.createAlong added here path).2.file? other = tree.file? other := by
  fun_induction createAlong tree added here path with
  | case1 => rfl
  | case2 tree added here rest induction => exact induction
  | case3 tree added here rest notDot induction => exact induction
  | case4 => rfl
  | case5 tree added here name rest notDot notUp short isThere induction => exact induction
  | case6 => rfl
  | case7 tree added here name rest notDot notUp short absent induction =>
      rw [induction, file?_put_directory absent]

/-- Making directories removes and changes nothing. -/
theorem node?_createAlong {added : Bool} {other : List String}
    (isThere : tree.node? other = some node) :
    (tree.createAlong added here path).2.node? other = some node := by
  fun_induction createAlong tree added here path with
  | case1 => exact isThere
  | case2 tree added here rest induction => exact induction isThere
  | case3 tree added here rest notDot induction => exact induction isThere
  | case4 => exact isThere
  | case5 tree added here name rest notDot notUp short found induction => exact induction isThere
  | case6 => exact isThere
  | case7 tree added here name rest notDot notUp short absent induction =>
      apply induction
      rw [node?_put_of_ne, isThere]
      intro same
      subst same
      rw [absent] at isThere
      cases isThere

/-- Where directories have been made, and nothing has gone since, there is nothing left to make. -/
theorem createAlong_again {added : Bool} {grown later : Tree}
    (made : tree.createAlong added here path = (.ok (), grown))
    (still : ∀ other, grown.node? other = some .directory → later.node? other = some .directory)
    (again : Bool) : later.createAlong again here path = (.ok (), later) := by
  fun_induction createAlong tree added here path generalizing again with
  | case1 => rfl
  | case2 tree added here rest induction =>
      rw [createAlong, if_pos rfl]
      exact induction made again
  | case3 tree added here rest notDot induction =>
      rw [createAlong, if_neg notDot, if_pos rfl]
      exact induction made again
  | case4 => cases made
  | case5 tree added here name rest notDot notUp short isThere induction =>
      have kept : (tree.createAlong added (here ++ [name]) rest).2.node? (here ++ [name]) = _ :=
        node?_createAlong isThere
      rw [made] at kept
      rw [createAlong, if_neg notDot, if_neg notUp, if_neg short, still _ kept]
      exact induction made again
  | case6 => cases made
  | case7 tree added here name rest notDot notUp short absent induction =>
      have kept : ((tree.put (here ++ [name]) .directory).createAlong true (here ++ [name])
          rest).2.node? (here ++ [name]) = some .directory :=
        node?_createAlong (node?_put_self absent)
      rw [made] at kept
      rw [createAlong, if_neg notDot, if_neg notUp, if_neg short, still _ kept]
      exact induction made again

theorem working_createAlong (tree : Tree) (added : Bool) (here path : List String) :
    (tree.createAlong added here path).2.working = tree.working := by
  fun_induction createAlong tree added here path with
  | case1 => rfl
  | case2 tree added here rest induction => exact induction
  | case3 tree added here rest notDot induction => exact induction
  | case4 => rfl
  | case5 tree added here name rest notDot notUp short isThere induction => exact induction
  | case6 => rfl
  | case7 tree added here name rest notDot notUp short absent induction => exact induction

theorem working_createDirectories (tree : Tree) (path : String) :
    (tree.createDirectories path).2.working = tree.working := by
  unfold createDirectories
  split
  · rfl
  · exact working_createAlong _ _ _ _

theorem file?_createDirectories (tree : Tree) (path : String) (other : List String) :
    (tree.createDirectories path).2.file? other = tree.file? other := by
  unfold createDirectories
  split
  · rfl
  · exact file?_createAlong _ _ _ _ _

theorem createDirectories_again {path : String} {grown later : Tree}
    (made : tree.createDirectories path = (.ok (), grown)) (same : later.working = grown.working)
    (still : ∀ other, grown.node? other = some .directory → later.node? other = some .directory) :
    later.createDirectories path = (.ok (), later) := by
  unfold createDirectories at made ⊢
  split at made
  · cases made
  · have kept := working_createAlong tree false (tree.start path) (components path)
    rw [made] at kept
    have sameStart : later.start path = tree.start path := by
      rw [start, start, same, kept]
    rw [sameStart]
    exact createAlong_again made still false

/-! ## Created files of an index directory -/

theorem name_ne_empty_of_createOutput {directory name : String} {grown : Tree}
    (created : tree.createOutput directory name = (.ok names, grown)) : name ≠ "" := by
  intro same
  subst same
  rw [createOutput, filePath, if_pos rfl] at created
  cases created

/-- To create a file of an index directory is to make the directories around it, and then the
file. -/
theorem createOutput_eq_ok {directory name : String} {grown : Tree}
    (created : tree.createOutput directory name = (.ok names, grown)) :
    ∃ file made, filePath directory name = .ok file ∧
      tree.createDirectories (parentPath file) = (.ok (), made) ∧
      made.createFile file = .ok (names, grown) := by
  unfold createOutput at created
  split at created
  · cases created
  next file isFile =>
    split at created
    · cases created
    next made directories =>
      split at created
      · cases created
      next isCreated =>
        cases created
        exact ⟨file, made, isFile, directories, isCreated⟩

/-- Where a file cannot be created, all files are as before. -/
theorem file?_of_createOutput_error {directory name : String} {error : RepoError} {left : Tree}
    (refused : tree.createOutput directory name = (.error error, left)) (other : List String) :
    left.file? other = tree.file? other := by
  unfold createOutput at refused
  split at refused
  · cases refused
    rfl
  next file isFile =>
    have kept := file?_createDirectories tree (parentPath file) other
    split at refused
    next made =>
      cases refused
      rw [made] at kept
      exact kept
    next made =>
      rw [made] at kept
      split at refused
      · cases refused
        exact kept
      · cases refused

/-- A file that has been created is new, and all other files are as before. -/
theorem file?_of_createOutput {directory name : String} {grown : Tree}
    (created : tree.createOutput directory name = (.ok names, grown)) (content : ByteArray)
    (other : List String) :
    tree.file? names = none ∧ (grown.put names (.file content)).file? other =
      if names = other then some content else tree.file? other := by
  rcases createOutput_eq_ok created with ⟨file, made, -, directories, isCreated⟩
  have absent := node?_of_createFile isCreated
  rcases createFile_eq_ok isCreated with ⟨-, -, rfl⟩
  have kept (place : List String) : made.file? place = tree.file? place := by
    have same := file?_createDirectories tree (parentPath file) place
    rw [directories] at same
    exact same
  constructor
  · rw [← kept, file?, absent]
  · rw [put_put]
    by_cases same : names = other
    · subst same
      rw [if_pos rfl, file?, node?_put_self absent]
    · rw [if_neg same, file?, node?_put_of_ne same, ← kept, file?]

/-- A file that has been created cannot be created again, whatever has been written to it. -/
theorem createOutput_again {directory name : String} {grown : Tree}
    (created : tree.createOutput directory name = (.ok names, grown)) (content : ByteArray) :
    (grown.put names (.file content)).createOutput directory name =
      (.error (.io .alreadyExists), grown.put names (.file content)) := by
  rcases createOutput_eq_ok created with ⟨file, made, isFile, directories, isCreated⟩
  have absent := node?_of_createFile isCreated
  have again := createFile_again content isCreated
  rcases createFile_eq_ok isCreated with ⟨-, -, rfl⟩
  have still (other : List String) (isDirectory : made.node? other = some .directory) :
      (made.put names (.file content)).node? other = some .directory := by
    rw [node?_put_of_ne, isDirectory]
    intro same
    subst same
    rw [absent] at isDirectory
    cases isDirectory
  have nothingLeft : (made.put names (.file content)).createDirectories (parentPath file) = _ :=
    createDirectories_again directories rfl still
  rw [put_put, createOutput, isFile]
  simp only [nothingLeft, again]

/-- A file of an index directory that has been created is read with what was put in its place. -/
theorem openInput_of_createOutput {directory name : String} {grown : Tree} {content : ByteArray}
    (created : tree.createOutput directory name = (.ok names, grown)) :
    (grown.put names (.file content)).openInput directory name =
      .ok ⟨name, content.size, Reader.ofBytes content⟩ := by
  rcases createOutput_eq_ok created with ⟨file, made, isFile, -, isCreated⟩
  rw [openInput, isFile]
  simp only [bind, Except.bind, openEntry_of_createFile isCreated]
  rfl

end Depot.Local.Tree
