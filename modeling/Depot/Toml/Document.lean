import Depot.Toml.Value

/-!
Tables in the making. The lines of a document each add something to its tables; a table remembers
how it came to be, because that decides what may still be added to it. Tables in the making are
trees, and a line either changes the tree or contradicts what is there.
-/

namespace Depot.Toml

inductive Origin where
  /-- On the way to a table with a header. -/
  | implied
  /-- On the way to a value, by a key with dots. -/
  | dotted
  /-- By a header of its own. -/
  | opened
  deriving DecidableEq, Repr

inductive Node where
  | value (value : Value)
  | table (origin : Origin) (entries : List (String × Node))
  /-- An array of tables. Only the last one can still grow; of the earlier ones the latest comes
  first. -/
  | tables (earlier : List Value) (last : List (String × Node))

/-- The entries of a table in the making, in the order in which they came to be there. -/
abbrev Nodes := List (String × Node)

mutual

def Node.finished : Node → Value
  | .value value => value
  | .table _ entries => .table (finishedEntries entries)
  | .tables earlier last => .array (.table (finishedEntries last) :: earlier).reverse

def finishedEntries : Nodes → Table
  | [] => []
  | (key, node) :: entries => (key, node.finished) :: finishedEntries entries

end

/-- A key with dots: the tables on the way, and the last part. -/
structure Name where
  tables : List String
  key : String
  deriving DecidableEq, Repr

def Name.path (name : Name) : List String := name.tables ++ [name.key]

inductive Statement where
  | assign (name : Name) (value : Value)
  | openTable (name : Name)
  | appendTable (name : Name)

namespace Nodes

/-- Put an entry instead of the one with its key, or else behind all others. -/
def put (key : String) (node : Node) : Nodes → Nodes
  | [] => [(key, node)]
  | (other, old) :: entries =>
      if other = key then (key, node) :: entries else (other, old) :: put key node entries

/-- Put an entry behind all others, wherever it was. -/
def putLast (key : String) (node : Node) (entries : Nodes) : Nodes :=
  (entries.filter fun entry => entry.1 != key) ++ [(key, node)]

/-- Change the table at the end of a path. Tables that are missing on the way come to be; a value
on the way is no table. A key with dots does not enter a table that has a header. -/
def changeAt (byDots : Bool) (change : Origin → Nodes → Option Nodes) :
    List String → Origin → Nodes → Option Nodes
  | [], origin, entries => change origin entries
  | key :: path, _, entries =>
      match entries.lookup key with
      | none => do
          let origin := if byDots then .dotted else .implied
          return put key (.table origin (← changeAt byDots change path origin [])) entries
      | some (.value _) => none
      | some (.table origin inner) =>
          if byDots ∧ origin = .opened then none
          else do
            let inner ← changeAt byDots change path origin inner
            return put key (.table origin inner) entries
      | some (.tables earlier last) => do
          let last ← changeAt byDots change path .opened last
          return put key (.tables earlier last) entries

/-- Add an entry. There must be none with its key. -/
def add (key : String) (node : Node) (entries : Nodes) : Option Nodes :=
  if (entries.lookup key).isSome then none else some (put key node entries)

/-- Give a name its value. With dots in the name, its table must have come to be by dots. -/
def assign (name : Name) (value : Value) (entries : Nodes) : Option Nodes :=
  changeAt true (fun origin entries =>
    if name.tables ≠ [] ∧ origin ≠ .dotted then none else add name.key (.value value) entries)
    name.tables .opened entries

/-- Give a table its header. There must be no such table, unless it is only implied so far; then it
moves behind the others. -/
def openTable (name : Name) (entries : Nodes) : Option Nodes :=
  changeAt false (fun _ entries =>
    match entries.lookup name.key with
    | some (.table .implied inner) => some (putLast name.key (.table .opened inner) entries)
    | _ => add name.key (.table .opened []) entries)
    name.tables .opened entries

def appendTable (name : Name) (entries : Nodes) : Option Nodes :=
  changeAt false (fun _ entries =>
    match entries.lookup name.key with
    | some (.tables earlier last) =>
        let earlier := .table (finishedEntries last) :: earlier
        some (put name.key (.tables earlier []) entries)
    | _ => add name.key (.tables [] []) entries)
    name.tables .opened entries

end Nodes

/-- All tables of a document, and the path of the one that lines add to. -/
structure Document where
  root : Nodes
  current : List String

namespace Document

def empty : Document := ⟨[], []⟩

def add (document : Document) : Statement → Option Document
  | .assign name value => do
      let root ← Nodes.changeAt false (fun _ entries => Nodes.assign name value entries)
        document.current .opened document.root
      return { document with root }
  | .openTable name => do return ⟨← Nodes.openTable name document.root, name.path⟩
  | .appendTable name => do return ⟨← Nodes.appendTable name document.root, name.path⟩

end Document

namespace Table

def ofStatements? (statements : List Statement) : Option Table :=
  (statements.foldlM Document.add Document.empty).map fun document => finishedEntries document.root

def ofAssignments? (assignments : List (Name × Value)) : Option Table :=
  (assignments.foldlM (fun entries (name, value) => Nodes.assign name value entries) []).map
    finishedEntries

end Table

end Depot.Toml
