import Depot.SortedMap
import Depot.Toml.Scalar

/-!
Tables as they are handed on. The entries of a table that was read stand in the order in which they
were written; those of a table that is handed on stand in the order of their keys. A table inside
another value that begins with the key of moments is handed on as a moment, and its other entries
do not count.
-/

namespace Depot.Toml

/-- The value of the first entry, if its key is that of moments. -/
def Table.momentEntry? : Table → Option Value
  | (key, value) :: _ => if key = Moment.key then some value else none
  | [] => none

/-- The moment that a value stands for behind the key of moments. Only a text can stand for one. -/
def Value.asMoment? : Value → Option Moment
  | .text content => Scalar.moment.whole content
  | _ => none

mutual

/-- A value with all tables in it as they are handed on, unless one of them should be a moment and
is none. -/
def Value.arranged? : Value → Option Value
  | .array elements => (arrangedElements? elements).map .array
  | .table entries =>
      match Table.momentEntry? entries with
      | some value => value.asMoment?.map .moment
      | none => (arrangedEntries? entries).map fun entries => .table entries.entries
  | value => some value

def arrangedElements? : List Value → Option (List Value)
  | [] => some []
  | element :: elements => do return (← element.arranged?) :: (← arrangedElements? elements)

def arrangedEntries? : List (String × Value) → Option (SortedMap Value)
  | [] => some .empty
  | (key, value) :: entries => do
      return (← arrangedEntries? entries).insert key (← value.arranged?)

end

/-- A whole table as it is handed on. The key of moments means nothing there. -/
def Table.arranged? (table : Table) : Option Table := (arrangedEntries? table).map (·.entries)

end Depot.Toml
