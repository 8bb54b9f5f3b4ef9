import Mathlib.Data.List.Basic
import Depot.Proofs.Leftovers
import Depot.Proofs.Exchanges
import Depot.Proofs.Segments

/-!
A restore stays inside its local directory, and only adds to it. The place of the file that it creates
is that of the directory, followed by those components of the name that are names; a name that begins
at the root or goes up is refused before anything is touched. Directories are made only on the way to
that place. What was there before stays as it was, and of the store a restore asks nothing that could
change it.
-/

namespace Depot.Local

/-! ## Places of paths -/

/-- Where a component leads on from a place, whatever is there. -/
def step (here : List String) (component : String) : List String :=
  if component = "." then here
  else if component = ".." then here.dropLast
  else here ++ [component]

def follow (here path : List String) : List String := path.foldl step here

/-- The components of a path that are names, as long as it does not go up. -/
def names (path : String) : List String := (components path).filter (· != ".")

theorem follow_cons (here rest : List String) (first : String) :
    follow here (first :: rest) = follow (step here first) rest := rfl

theorem follow_append (here front rest : List String) :
    follow here (front ++ rest) = follow (follow here front) rest :=
  List.foldl_append

/-- A path that does not go up leads on by its names. -/
theorem follow_of_no_rise {here path : List String} (noRise : path.all (· != "..") = true) :
    follow here path = here ++ path.filter (· != ".") := by
  induction path generalizing here with
  | nil => simp [follow]
  | cons first rest induction =>
      rw [List.all_cons, Bool.and_eq_true] at noRise
      have notUp : first ≠ ".." := by simpa using noRise.1
      rw [follow_cons, induction noRise.2, step]
      by_cases isDot : first = "."
      · simp [isDot]
      · simp [isDot, notUp]

/-! ## Components -/

/-- The components of the text of a path. -/
def parts (text : List Char) : List String :=
  ((Text.pieces '/' text).filter (· != [])).map String.ofList

theorem components_eq_parts (path : String) : components path = parts path.toList := rfl

theorem parts_append_delimiter (front rest : List Char) :
    parts (front ++ '/' :: rest) = parts front ++ parts rest := by
  rw [parts, Text.pieces_eq_splitOn, List.splitOn_append_cons_self, List.filter_append,
    List.map_append, ← Text.pieces_eq_splitOn, ← Text.pieces_eq_splitOn]
  rfl

theorem components_joined (directory name : String) :
    components (joined directory name) = components directory ++ components name := by
  simp only [components_eq_parts, joined]
  split
  next noDelimiter =>
    rw [String.toList_append]
    rcases noDelimiter with rfl | ends
    · rfl
    · rcases List.getLast?_eq_some_iff.mp (beq_iff_eq.mp ends) with ⟨front, isDirectory⟩
      have nothing : parts [] = [] := rfl
      rw [isDirectory, List.append_assoc, List.singleton_append, parts_append_delimiter,
        parts_append_delimiter, nothing, List.append_nil]
  · rw [String.toList_append, String.toList_append, List.append_assoc]
    exact parts_append_delimiter _ _

/-- The path of the directory of a path holds the first pieces of that path. -/
theorem exists_pieces_parentPath (path : String) :
    ∃ kept, kept <+: Text.pieces '/' path.toList ∧
      (parentPath path).toList = Text.join ['/'] kept := by
  generalize isKept : (((Text.pieces '/' path.toList).reverse.dropWhile
    (fun piece => piece == [] || piece == ['.'])).drop 1).dropWhile
      (fun piece => piece == [] || piece == ['.']) = kept
  have isSuffix : kept <:+ (Text.pieces '/' path.toList).reverse := by
    rw [← isKept]
    exact (List.dropWhile_suffix _).trans ((List.drop_suffix _ _).trans (List.dropWhile_suffix _))
  refine ⟨kept.reverse, by simpa using List.reverse_prefix.mpr isSuffix, ?_⟩
  rw [parentPath, isKept, String.toList_ofList]

/-- The way to the directory of a path is an initial part of the way along the path. -/
theorem components_parentPath (path : String) : components (parentPath path) <+: components path := by
  rcases exists_pieces_parentPath path with ⟨kept, isPrefix, isParent⟩
  have sameParts : parts (Text.join ['/'] kept) = (kept.filter (· != [])).map String.ofList := by
    by_cases nothing : kept = []
    · subst nothing
      rfl
    · have plain (piece : List Char) (member : piece ∈ kept) : '/' ∉ piece :=
        Text.not_mem_of_mem_pieces (isPrefix.subset member)
      have again : (Text.join ['/'] kept).splitOn '/' = kept :=
        List.splitOn_intercalate '/' plain nothing
      rw [parts, Text.pieces_eq_splitOn, again]
  rw [components_eq_parts, isParent, sameParts]
  exact (isPrefix.filter _).map _

theorem join_prefix {separator : List Char} {front whole : List (List Char)}
    (isPrefix : front <+: whole) : Text.join separator front <+: Text.join separator whole := by
  rcases isPrefix with ⟨rest, rfl⟩
  induction front with
  | nil => exact List.nil_prefix
  | cons piece others induction =>
      cases others with
      | nil =>
          cases rest with
          | nil => exact List.prefix_rfl
          | cons next rest =>
              have single : Text.join separator [piece] = piece := List.append_nil piece
              rw [List.singleton_append, Text.join_cons_cons, List.append_assoc, single]
              exact List.prefix_append _ _
      | cons next others =>
          rw [List.cons_append, List.cons_append, Text.join_cons_cons, Text.join_cons_cons]
          exact (List.prefix_append_right_inj _).mpr induction

theorem toList_parentPath_prefix (path : String) : (parentPath path).toList <+: path.toList := by
  rcases exists_pieces_parentPath path with ⟨kept, isPrefix, isParent⟩
  rw [isParent]
  have whole := Text.join_pieces '/' path.toList
  exact whole ▸ join_prefix isPrefix

/-- Whether a text names an entry of the directory that it is looked up in. -/
def IsEntryName (part : String) : Prop := part ≠ "" ∧ isName part = true ∧ '/' ∉ part.toList

/-- What stays inside a directory is made of names, and of dots that lead nowhere. -/
theorem isEntryName_of_mem_names {name part : String} (stays : staysInside name = true)
    (member : part ∈ names name) : IsEntryName part := by
  rcases List.mem_filter.mp member with ⟨among, notDot⟩
  have notUp := List.all_eq_true.mp (Bool.and_eq_true_iff.mp stays).2 part among
  rcases List.mem_map.mp among with ⟨piece, isPiece, rfl⟩
  rcases List.mem_filter.mp isPiece with ⟨isCut, something⟩
  refine ⟨?_, by rw [isName, notDot, notUp]; rfl, ?_⟩
  · intro nothing
    rw [String.ofList_eq_empty_iff.mp nothing] at something
    cases something
  · rw [String.toList_ofList]
    exact Text.not_mem_of_mem_pieces isCut

/-- Whether a text begins with a delimiter is seen from its first character. -/
theorem startsWith_delimiter_cons (first : Char) (rest : List Char) :
    Text.startsWith ['/'] (first :: rest) = true ↔ first = '/' := by
  rw [Text.startsWith_iff]
  simp

/-- A name that stays inside begins with a component. -/
theorem components_ne_nil {name : String} (something : name ≠ "") (stays : staysInside name = true) :
    components name ≠ [] := by
  have relative := (Bool.and_eq_true_iff.mp stays).1
  rw [components_eq_parts, parts]
  cases text : name.toList with
  | nil => exact absurd (String.toList_eq_nil_iff.mp text) something
  | cons first rest =>
      have notDelimiter : first ≠ '/' := by
        intro same
        rw [text, (startsWith_delimiter_cons first rest).mpr same] at relative
        cases relative
      rcases List.exists_cons_of_ne_nil (Text.pieces_ne_nil '/' rest) with ⟨piece, others, cut⟩
      rw [Text.pieces_cons, if_neg notDelimiter, cut]
      simp [Text.growFirst]

namespace Tree

variable {tree : Tree} {here path other : List String} {node : Node}

/-- The place of a local directory. -/
def placeOf (tree : Tree) (directory : String) : List String :=
  follow (tree.start directory) (components directory)

theorem start_joined (tree : Tree) (directory : String) {name : String}
    (stays : staysInside name = true) :
    tree.start (joined directory name) = tree.start directory := by
  have relative : ¬Text.startsWith ['/'] name.toList = true := by
    simpa using (Bool.and_eq_true_iff.mp stays).1
  cases text : directory.toList with
  | nil =>
      rw [String.toList_eq_nil_iff.mp text, joined, if_pos (.inl rfl), String.empty_append]
      rw [start, start, if_neg relative]
      rfl
  | cons first rest =>
      have sameStart (behind : List Char) : Text.startsWith ['/'] (first :: rest ++ behind) =
          Text.startsWith ['/'] (first :: rest) := by
        rw [Bool.eq_iff_iff, List.cons_append, startsWith_delimiter_cons, startsWith_delimiter_cons]
      rw [start, start, joined]
      split <;> simp only [String.toList_append, text, List.append_assoc, sameStart]

/-- A vacant place is where its path leads. -/
theorem eq_follow_of_walk_vacant {place : List String}
    (vacant : tree.walk here path = .ok (.vacant place)) : place = follow here path := by
  fun_induction walk tree here path with
  | case1 here node found => cases vacant
  | case2 here absent => cases vacant
  | case3 here name rest absent => cases vacant
  | case4 here name rest content isFile => cases vacant
  | case5 here rest isDirectory induction =>
      rw [follow_cons, step, if_pos rfl]
      exact induction vacant
  | case6 here rest isDirectory notDot induction =>
      rw [follow_cons, step, if_neg notDot, if_pos rfl]
      exact induction vacant
  | case7 here name rest isDirectory notDot notUp tooLong => cases vacant
  | case8 here name isDirectory notDot notUp short node found rest induction =>
      rw [follow_cons, step, if_neg notDot, if_neg notUp]
      exact induction vacant
  | case9 here name isDirectory notDot notUp short absent =>
      cases vacant
      rw [follow_cons, step, if_neg notDot, if_neg notUp]
      rfl
  | case10 here name isDirectory notDot notUp short absent next rest => cases vacant

/-- What is new where directories have been made is a directory on the way. -/
theorem eq_directory_of_createAlong {added : Bool} (absent : tree.node? other = none)
    (isThere : (tree.createAlong added here path).2.node? other = some node) :
    node = .directory ∧ ∃ lead, lead <+: path ∧ other = follow here lead := by
  fun_induction createAlong tree added here path with
  | case1 tree added here =>
      rw [absent] at isThere
      cases isThere
  | case2 tree added here rest induction =>
      rcases induction absent isThere with ⟨rfl, lead, isLead, rfl⟩
      refine ⟨rfl, "." :: lead, List.cons_prefix_cons.mpr ⟨rfl, isLead⟩, ?_⟩
      rw [follow_cons, step, if_pos rfl]
  | case3 tree added here rest notDot induction =>
      rcases induction absent isThere with ⟨rfl, lead, isLead, rfl⟩
      refine ⟨rfl, ".." :: lead, List.cons_prefix_cons.mpr ⟨rfl, isLead⟩, ?_⟩
      rw [follow_cons, step, if_neg notDot, if_pos rfl]
  | case4 tree added here name rest notDot notUp tooLong =>
      rw [absent] at isThere
      cases isThere
  | case5 tree added here name rest notDot notUp short found induction =>
      rcases induction absent isThere with ⟨rfl, lead, isLead, rfl⟩
      refine ⟨rfl, name :: lead, List.cons_prefix_cons.mpr ⟨rfl, isLead⟩, ?_⟩
      rw [follow_cons, step, if_neg notDot, if_neg notUp]
  | case6 tree added here name rest notDot notUp short content found =>
      rw [absent] at isThere
      cases isThere
  | case7 tree added here name rest notDot notUp short vacant induction =>
      have next (lead : List String) :
          follow here (name :: lead) = follow (here ++ [name]) lead := by
        rw [follow_cons, step, if_neg notDot, if_neg notUp]
      by_cases same : here ++ [name] = other
      · subst same
        have made : (tree.put (here ++ [name]) .directory).node? (here ++ [name]) =
            some .directory := node?_put_self vacant
        rw [node?_createAlong made] at isThere
        cases isThere
        exact ⟨rfl, [name], List.cons_prefix_cons.mpr ⟨rfl, List.nil_prefix⟩, (next []).symm⟩
      · have still : (tree.put (here ++ [name]) .directory).node? other = none := by
          rw [node?_put_of_ne same, absent]
        rcases induction still isThere with ⟨rfl, lead, isLead, rfl⟩
        exact ⟨rfl, name :: lead, List.cons_prefix_cons.mpr ⟨rfl, isLead⟩, (next lead).symm⟩

/-! ## What a restore may add -/

/-- Whether a tree differs from one before by no more than what it takes to create a file of an index
directory: the file, and directories on the way to it. -/
structure Confined (before after : Tree) (directory name : String) : Prop where
  working : after.working = before.working
  /-- Nothing that was there has changed. -/
  kept : ∀ {other : List String} {node : Node}, before.node? other = some node →
    after.node? other = some node
  /-- A file that is new lies where the names of its name lead from the directory. -/
  files : ∀ {other : List String} {content : ByteArray}, before.node? other = none →
    after.node? other = some (.file content) →
      staysInside name = true ∧ names name ≠ [] ∧ (∀ part ∈ names name, IsEntryName part) ∧
        other = before.placeOf directory ++ names name
  /-- A directory that is new leads to the index directory, or from there to the file. -/
  directories : ∀ {other : List String}, before.node? other = none →
    after.node? other = some .directory →
      staysInside name = true ∧
        ((∃ lead, lead <+: components directory ∧ other = follow (before.start directory) lead) ∨
          ∃ lead, lead <+: names name ∧ other = before.placeOf directory ++ lead)

theorem Confined.refl (tree : Tree) (directory name : String) :
    tree.Confined tree directory name where
  working := rfl
  kept isThere := isThere
  files absent isThere := by
    rw [absent] at isThere
    cases isThere
  directories absent isThere := by
    rw [absent] at isThere
    cases isThere

theorem filePath_eq_ok {directory name file : String} (isFile : filePath directory name = .ok file) :
    name ≠ "" ∧ staysInside name = true ∧ file = joined directory name := by
  unfold filePath at isFile
  split at isFile
  · cases isFile
  next something =>
    split at isFile
    next stays =>
      cases isFile
      exact ⟨something, stays, rfl⟩
    · cases isFile

/-- A path and the path of its directory start at the same place, unless the latter is empty. -/
theorem start_parentPath (tree : Tree) {path : String}
    (something : components (parentPath path) ≠ []) :
    tree.start (parentPath path) = tree.start path := by
  cases text : (parentPath path).toList with
  | nil =>
      rw [components_eq_parts, text] at something
      exact absurd rfl something
  | cons first rest =>
      rcases toList_parentPath_prefix path with ⟨behind, whole⟩
      rw [text, List.cons_append] at whole
      have sameStart : Text.startsWith ['/'] (first :: rest) =
          Text.startsWith ['/'] (first :: (rest ++ behind)) := by
        rw [Bool.eq_iff_iff, startsWith_delimiter_cons, startsWith_delimiter_cons]
      rw [start, start, text, ← whole, sameStart]

/-- The way to a file of an index directory leads to the directory, and from there along names. -/
theorem follow_of_prefix {directory name : String} {lead : List String}
    (stays : staysInside name = true) (isLead : lead <+: components directory ++ components name) :
    (lead <+: components directory) ∨
      ∃ further, further <+: names name ∧
        follow (tree.start directory) lead = tree.placeOf directory ++ further := by
  rcases isLead with ⟨rest, whole⟩
  rcases List.append_eq_append_iff.mp whole with ⟨missing, within, -⟩ | ⟨beyond, rfl, isRest⟩
  · exact .inl ⟨missing, within.symm⟩
  · have isPrefix : beyond <+: components name := ⟨rest, isRest.symm⟩
    refine .inr ⟨beyond.filter (· != "."), isPrefix.filter _, ?_⟩
    have noRise : beyond.all (· != "..") = true :=
      List.all_eq_true.mpr fun part member =>
        List.all_eq_true.mp (Bool.and_eq_true_iff.mp stays).2 part (isPrefix.subset member)
    rw [follow_append, follow_of_no_rise noRise]
    rfl

/-- Making the directories around a file of an index directory keeps to the way. -/
theorem confined_createDirectories {directory name file : String} (tree : Tree)
    (isFile : filePath directory name = .ok file) :
    tree.Confined (tree.createDirectories (parentPath file)).2 directory name := by
  rcases filePath_eq_ok isFile with ⟨-, stays, rfl⟩
  unfold createDirectories
  split
  · exact .refl _ _ _
  by_cases nothing : components (parentPath (joined directory name)) = []
  · rw [nothing]
    exact .refl _ _ _
  rw [start_parentPath tree nothing, start_joined tree directory stays]
  constructor
  · exact working_createAlong _ _ _ _
  · intro other node isThere
    exact node?_createAlong isThere
  · intro other content absent isThere
    cases (eq_directory_of_createAlong absent isThere).1
  · intro other absent isThere
    rcases eq_directory_of_createAlong absent isThere with ⟨-, lead, isLead, rfl⟩
    have onTheWay : lead <+: components directory ++ components name := by
      rw [← components_joined]
      exact isLead.trans (components_parentPath _)
    refine ⟨stays, ?_⟩
    rcases follow_of_prefix stays onTheWay with within | ⟨further, isPrefix, leads⟩
    · exact .inl ⟨lead, within, rfl⟩
    · exact .inr ⟨further, isPrefix, leads⟩

/-- A file may be added where the names of its name lead. -/
theorem Confined.put {before made : Tree} {directory name : String} {place : List String}
    (confined : before.Confined made directory name) (absent : made.node? place = none)
    (stays : staysInside name = true) (something : names name ≠ [])
    (leads : place = before.placeOf directory ++ names name) (content : ByteArray) :
    before.Confined (made.put place (.file content)) directory name := by
  have elsewhere (other : List String) {node : Node} (isThere : made.node? other = some node) :
      (made.put place (.file content)).node? other = some node := by
    rw [node?_put_of_ne, isThere]
    intro same
    subst same
    rw [absent] at isThere
    cases isThere
  constructor
  · exact confined.working
  · intro other node isThere
    exact elsewhere other (confined.kept isThere)
  · intro other found wasAbsent isThere
    by_cases same : place = other
    · exact ⟨stays, something, fun _ member => isEntryName_of_mem_names stays member,
        same ▸ leads⟩
    · rw [node?_put_of_ne same] at isThere
      exact confined.files wasAbsent isThere
  · intro other wasAbsent isThere
    by_cases same : place = other
    · subst same
      rw [node?_put_self absent] at isThere
      cases isThere
    · rw [node?_put_of_ne same] at isThere
      exact confined.directories wasAbsent isThere

/-- A file that is created lies where its path leads. -/
theorem place_of_createFile {file : String} {place : List String} {grown : Tree}
    (created : tree.createFile file = .ok (place, grown)) :
    place = follow (tree.start file) (components file) ∧
      (components file).getLast?.any isName = true := by
  rcases createFile_eq_ok created with ⟨-, located, -⟩
  rcases locate_eq_ok_iff.mp located with ⟨-, -, vacant⟩
  exact ⟨eq_follow_of_walk_vacant vacant, isName_of_walk_vacant vacant⟩

theorem confined_createOutput {directory name : String} {place : List String} {grown : Tree}
    (created : tree.createOutput directory name = (.ok place, grown)) (content : ByteArray) :
    tree.Confined (grown.put place (.file content)) directory name := by
  rcases createOutput_eq_ok created with ⟨file, made, isFile, directories, isCreated⟩
  have onTheWay := confined_createDirectories tree isFile
  rw [directories] at onTheWay
  have absent := node?_of_createFile isCreated
  have sameStart : made.start file = tree.start file := by
    have kept := working_createDirectories tree (parentPath file)
    rw [directories] at kept
    rw [start, start, kept]
  rcases place_of_createFile isCreated with ⟨leads, endsWithName⟩
  rcases createFile_eq_ok isCreated with ⟨-, -, rfl⟩
  rcases filePath_eq_ok isFile with ⟨something, stays, rfl⟩
  rw [put_put]
  refine onTheWay.put absent stays ?_ ?_ content
  · have nonempty := components_ne_nil something stays
    rw [components_joined, List.getLast?_append_of_ne_nil _ nonempty,
      List.getLast?_eq_some_getLast nonempty, Option.any_some] at endsWithName
    have notDot : (components name).getLast nonempty != "." :=
      (Bool.and_eq_true_iff.mp endsWithName).1
    exact List.ne_nil_of_mem (List.mem_filter.mpr ⟨List.getLast_mem nonempty, notDot⟩)
  · rw [leads, sameStart, start_joined tree directory stays, components_joined, follow_append,
      follow_of_no_rise (Bool.and_eq_true_iff.mp stays).2]
    rfl

theorem confined_of_createOutput_error {directory name : String} {error : RepoError} {left : Tree}
    (refused : tree.createOutput directory name = (.error error, left)) :
    tree.Confined left directory name := by
  unfold createOutput at refused
  split at refused
  · cases refused
    exact .refl _ _ _
  next file isFile =>
    have onTheWay := confined_createDirectories tree isFile
    split at refused
    next made =>
      cases refused
      rwa [made] at onTheWay
    next made =>
      rw [made] at onTheWay
      split at refused
      · cases refused
        exact onTheWay
      · cases refused

end Tree

end Depot.Local

namespace Depot.S3

/-- Whether a command only asks for what there is. -/
def Exchange.Reads (asked : Exchange) : Prop :=
  asked.command.method = .head ∨ asked.command.method = .get

theorem Client.reads_respond {client : Client} {call : Call} (reads : call.Reads) :
    (client.respond call).Asks Exchange.Reads := by
  cases call with
  | head key => exact (asks_send (.inl rfl)).bind fun _ => trivial
  | openRead key => exact (asks_send (.inr rfl)).bind fun _ => trivial
  | _ => exact reads.elim

end Depot.S3

namespace Depot.Repository

open Dialogue

variable {Handle : Type} {repository : Repository Handle} {source : LogicalPath}
  {sourceName targetName directory : String} {tree left : Local.Tree}
  {transcript : StoreTranscript} {result : Except RepoError Unit}

theorem confined_copyIndexFileTo
    (goes : (repository.copyIndexFileTo source sourceName tree directory targetName).Goes transcript
      (result, left)) : tree.Confined left directory targetName := by
  rcases goes_copyIndexFileTo goes with
    ⟨-, -, rfl | ⟨error, refused⟩⟩ | ⟨_, names, grown, _, file, _, _, -, created, -, -, rfl⟩
  · exact .refl _ _ _
  · exact Local.Tree.confined_of_createOutput_error refused
  · exact Local.Tree.confined_createOutput created file.received

/-- What a restore to a name in a directory may do: of local files it changes no more than what it
takes to create the one that is named, and of the store it changes nothing, whatever is answered. -/
structure StaysInside (directory name : String)
    (restore : Local.Tree → StoreDialogue (Except RepoError Unit × Local.Tree)) : Prop where
  confined : ∀ {before transcript result after}, (restore before).Goes transcript (result, after) →
    before.Confined after directory name
  reads : ∀ before, (restore before).Asks Call.Reads
  /-- A store in memory stays as it is, also if calls fail. -/
  unchanged : ∀ {before store outcome last},
    Run Memory.Tried (restore before) store outcome last → last = store
  /-- An object store gets only commands that read. -/
  commands : ∀ {before} {client : S3.Client} {exchanges outcome},
    client.Relays (restore before) exchanges outcome → ∀ asked ∈ exchanges, asked.1.Reads

theorem staysInside_copyIndexFileTo : StaysInside directory targetName fun tree =>
    repository.copyIndexFileTo source sourceName tree directory targetName where
  confined goes := confined_copyIndexFileTo goes
  reads _ := reads_copyIndexFileTo
  unchanged run := Memory.run_of_looks asks_copyIndexFileTo run
  commands relays := relays.asked reads_copyIndexFileTo fun _ => S3.Client.reads_respond

/-- A restore stays inside the local directory: the only file that it creates lies where the names of
its name lead from there, and what was there before stays. It changes nothing in the store. -/
theorem restore_stays_inside (repository : Repository Handle) (source : LogicalPath)
    (directory : String) :
    (∀ sourceName targetName, StaysInside directory targetName fun tree =>
      repository.copyIndexFileTo source sourceName tree directory targetName) ∧
    ∀ file, StaysInside directory (repository.localName file) fun tree =>
      repository.copyFileTo source file tree directory := by
  constructor
  · intro sourceName targetName
    exact staysInside_copyIndexFileTo
  · intro file
    rcases copyFileTo_eq repository source file directory with ⟨found, same⟩
    simp only [same]
    exact staysInside_copyIndexFileTo

/-! A flat repository that holds one file, and restores of it by two names of its key. What follows
the first delimiter stays inside the directory in one of them, and begins at the root in the other. -/

private def attic : Repository Unit := ⟨.flat, 2, 10, .empty, some ()⟩

private def stowed : Memory.Store := Memory.Store.empty.insert ⟨"a/b/f"⟩ (.mk #[1, 2, 3])

private def bring (file : String) (tree : Local.Tree) :
    StoreDialogue (Except RepoError Unit × Local.Tree) :=
  attic.copyFileTo (.make .s3 none "/") file tree "d"

private def brought (file : String) : (Except RepoError Unit × Local.Tree) × Memory.Store :=
  (bring file (.bare ["w"])).run Memory.Store.respond stowed

theorem restore_stays_inside_attic :
    (brought "a/b/./f").1.1 = .ok () ∧
      (brought "a/b/./f").1.2.file? ["w", "d", "b", "f"] = some (.mk #[1, 2, 3]) ∧
      (Local.Tree.bare ["w"]).Confined (brought "a/b/./f").1.2 "d" "b/./f" ∧
      (brought "a//b/f").1.1 =
        .error (.invalidPath "file name must stay inside the index directory: /b/f") ∧
      (brought "a//b/f").1.2.entries.isEmpty ∧
      (Local.Tree.bare ["w"]).Confined (brought "a//b/f").1.2 "d" "/b/f" := by
  have confined (file : String) :
      (Local.Tree.bare ["w"]).Confined (brought file).1.2 "d" (attic.localName file) := by
    have goes := Dialogue.goes_run Memory.Store.respond (bring file (.bare ["w"])) stowed
    have parted : ((bring file (.bare ["w"])).run Memory.Store.respond stowed).1 =
        ((brought file).1.1, (brought file).1.2) := rfl
    rw [parted] at goes
    exact ((restore_stays_inside attic (.make .s3 none "/") "d").2 file).confined goes
  refine ⟨by decide +kernel, by decide +kernel, ?_, by decide +kernel, by decide +kernel, ?_⟩
  · exact confined "a/b/./f"
  · exact confined "a//b/f"

end Depot.Repository
