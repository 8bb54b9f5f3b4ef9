import Depot.Error
import Std.Data.ExtTreeMap

/-!
Files and directories of the local machine. A path is walked component by component, from the root
if it begins with a delimiter and else from the working directory; the walk either reaches an entry,
or stops one name before it in a directory that exists, or fails. Files are only added: no operation
here removes an entry.
-/

namespace Depot.Local

inductive Node where
  | file (content : ByteArray)
  | directory

/-- The entries of a machine, by the names that lead to them from its root. The working directory
and the directories that lead to it are not among them, but always exist. -/
structure Tree where
  working : List String
  entries : Std.ExtTreeMap (List String) Node

/-- Where the walk along a path ends. -/
inductive Place where
  | entry (names : List String) (node : Node)
  /-- Nothing is here, but the directory that would hold it exists. -/
  | vacant (names : List String)

/-- The longest name of an entry, in bytes. -/
def longestName : Nat := 255

/-- The longest path, in bytes. -/
def longestPath : Nat := 4095

/-- The size that a directory reports when it is opened like a file. -/
def directorySize : Nat := 4096

/-- The components of a path; empty ones do not count. -/
def components (path : String) : List String :=
  ((Text.pieces '/' path.toList).filter (· != [])).map String.ofList

/-- Whether a component is the name of an entry, and not a dot or two that stay or go up. -/
def isName (component : String) : Bool := component != "." && component != ".."

/-- The path of the directory that holds a path. It ends before the last component, and before
what says nothing in front of that. -/
def parentPath (path : String) : String :=
  let saysNothing := fun (piece : List Char) => piece == [] || piece == ['.']
  let pieces := (Text.pieces '/' path.toList).reverse.dropWhile saysNothing
  String.ofList (Text.join ['/'] ((pieces.drop 1).dropWhile saysNothing).reverse)

example : parentPath "a/./b//c/./" = "a/./b" := by decide

def below? : (lead names : List String) → Option (List String)
  | [], names => some names
  | _ :: _, [] => none
  | expected :: lead, name :: names => if expected = name then below? lead names else none

namespace Tree

/-- The tree in which there is nothing but a working directory. -/
def bare (working : List String) : Tree := ⟨working, ∅⟩

def node? (tree : Tree) (names : List String) : Option Node :=
  if (below? names tree.working).isSome then some .directory
  else tree.entries[names]?

/-- The names of the directory that a path leads on from. -/
def start (tree : Tree) (path : String) : List String :=
  if Text.startsWith ['/'] path.toList then [] else tree.working

/-- The tree with an entry, instead of the one that may be there. -/
def put (tree : Tree) (names : List String) (node : Node) : Tree :=
  { tree with entries := tree.entries.insert names node }

def walk (tree : Tree) : (here : List String) → List String → Except IoCause Place
  | here, [] =>
      match tree.node? here with
      | some node => .ok (.entry here node)
      | none => .error .noSuchEntry
  | here, name :: rest =>
      match tree.node? here with
      | none => .error .noSuchEntry
      | some (.file _) => .error .notDirectory
      | some .directory =>
          if name = "." then walk tree here rest
          else if name = ".." then walk tree here.dropLast rest
          else if name.utf8ByteSize > longestName then .error .nameTooLong
          else
            match tree.node? (here ++ [name]), rest with
            | some _, rest => walk tree (here ++ [name]) rest
            | none, [] => .ok (.vacant (here ++ [name]))
            | none, _ :: _ => .error .noSuchEntry

/-- What makes a path unusable whatever the tree holds. -/
def unusable? (path : String) : Option IoCause :=
  if Char.ofNat 0 ∈ path.toList then some .nulInName
  else if path.utf8ByteSize > longestPath then some .nameTooLong
  else none

def locate (tree : Tree) (path : String) : Except IoCause Place :=
  match unusable? path with
  | some cause => .error cause
  | none =>
      if path = "" then .error .noSuchEntry else tree.walk (tree.start path) (components path)

/-- Open an existing entry. Only a directory may be named with a delimiter at the end. -/
def openEntry (tree : Tree) (path : String) : Except IoCause Node := do
  match ← tree.locate path with
  | .vacant _ => throw .noSuchEntry
  | .entry _ .directory => return .directory
  | .entry _ (.file content) =>
      if Text.endsWith '/' path.toList then throw .notDirectory
      return .file content

/-- Whether a path names a directory by a delimiter at its end. -/
def namesDirectory (path : String) : Bool :=
  Text.endsWith '/' path.toList && (components path).getLast?.any isName

/-- Create an empty file where nothing is, and give its names. If a path names a directory, only the
way to it is walked. -/
def createFile (tree : Tree) (path : String) : Except IoCause (List String × Tree) := do
  if namesDirectory path then
    if let some cause := unusable? path then throw cause
    let _ ← tree.walk (tree.start path) ((components path).dropLast ++ ["."])
    throw .isDirectory
  match ← tree.locate path with
  | .entry _ _ => throw .alreadyExists
  | .vacant names => return (names, tree.put names (.file .empty))

/-- Make directories along components where nothing is; `added` tells whether one has been made on
the way. A file on the way is in the way of the whole path as long as none has been made, and from
then on of the directory that should be in its place. -/
def createAlong (tree : Tree) (added : Bool) (here : List String) :
    List String → Except IoCause Unit × Tree
  | [] => (.ok (), tree)
  | name :: rest =>
      if name = "." then createAlong tree added here rest
      else if name = ".." then createAlong tree added here.dropLast rest
      else if name.utf8ByteSize > longestName then (.error .nameTooLong, tree)
      else
        match tree.node? (here ++ [name]) with
        | some .directory => createAlong tree added (here ++ [name]) rest
        | some (.file _) =>
            (.error (if added || rest.isEmpty then .alreadyExists else .notDirectory), tree)
        | none =>
            createAlong (tree.put (here ++ [name]) .directory) true (here ++ [name]) rest

/-- Make the directories of a path that are missing. Those that were made stay if a later one cannot
be made. -/
def createDirectories (tree : Tree) (path : String) : Except IoCause Unit × Tree :=
  match unusable? path with
  | some cause => (.error cause, tree)
  | none => tree.createAlong false (tree.start path) (components path)

/-- Everything below a directory, by the names from there on. A directory comes before what it
holds, and entries of one directory come in the order of their names. Nothing is below what is no
directory. -/
def list (tree : Tree) (directory : String) : List (List String × Node) :=
  match tree.locate directory with
  | .ok (.entry names .directory) =>
      tree.entries.toList.filterMap fun (entry, node) =>
        match below? names entry with
        | some (name :: names) => some (name :: names, node)
        | _ => none
  | _ => []

end Tree

end Depot.Local
