import Depot.Toml.Arranged
import Depot.Toml.Document

/-!
Reading TOML documents.
-/

namespace Depot.Toml.Reader

open Scan

/-- How deep values may be nested, and the first number of parts of a key that is too many. -/
def depthLimit : Nat := 80

def name : Scan Name := do
  let parts ← separated (literal ".") (spaced Quoted.keyPart)
  match parts.getLast? with
  | some key =>
      if parts.length < depthLimit then return ⟨parts.dropLast, key⟩ else failure
  | none => failure

/-- An array. There may be a comma behind its last element. -/
def array (element : Scan Value) : Scan Value := do
  literal "["
  let elements ← optional (separated (literal ",") (layout *> element <* layout))
  if elements.isSome then
    let _ ← optional (literal ",")
  layout
  literal "]"
  return .array (elements.getD [])

def assignment (value : Scan Value) : Scan (Name × Value) := do
  let name ← name
  literal "="
  return (name, ← spaced value)

def inlineTable (value : Scan Value) : Scan Value := do
  literal "\x7b"
  let assignments ← optional (separated (literal ",") (assignment value))
  spaces
  literal "\x7d"
  match Table.ofAssignments? (assignments.getD []) with
  | some table => return .table table
  | none => failure

/-- A value with others in it to a given depth. -/
def value : (depth : Nat) → Scan Value
  | 0 => Scalar.value
  | depth + 1 =>
      let inner := value depth
      Scalar.value <|> array inner <|> inlineTable inner

def statement : Scan Statement :=
  literal "[[" *> Statement.appendTable <$> name <* literal "]]"
    <|> literal "[" *> Statement.openTable <$> name <* literal "]"
    <|> (fun (name, value) => Statement.assign name value) <$> assignment (value (depthLimit - 1))

/-- A line, which may be empty. -/
def line : Scan (Option Statement) :=
  (some <$> (spaces *> statement <* lineEnd)) <|> lineEnd *> pure none

/-- The lines of a document. A byte order mark at its start does not count. -/
def document : Scan (List Statement) := do
  let _ ← optional (literal "\uFEFF")
  return (← many line).filterMap id

end Reader

/-- The table that a text describes, if it is a TOML document. -/
def Table.ofText? (text : String) : Option Table := do
  (← Table.ofStatements? (← Reader.document.whole text)).arranged?

end Depot.Toml
