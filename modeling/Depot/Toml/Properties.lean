import Depot.Config
import Depot.Toml.Printer
import Depot.Toml.Reader

/-!
Properties from TOML. A table gives one property for every value in it and in the tables below it,
under the keys that lead to the value, joined by dots.
-/

namespace Depot.Toml

/-- The name of an entry below a table with a name. The table without a name adds nothing. -/
def nameBelow (table key : String) : String := if table = "" then key else table ++ "." ++ key

mutual

/-- The properties of a value with a name: of a table those below it, of another value its own. -/
def Value.leaves (name : String) : Value → List (String × String)
  | .table entries => leavesBelow name entries
  | .text content => [(name, content)]
  | .integer number => [(name, (Value.integer number).display)]
  | .real number => [(name, (Value.real number).display)]
  | .truth holds => [(name, (Value.truth holds).display)]
  | .moment instant => [(name, (Value.moment instant).display)]
  | .array elements => [(name, (Value.array elements).display)]

def leavesBelow (table : String) : List (String × Value) → List (String × String)
  | [] => []
  | (key, value) :: entries => value.leaves (nameBelow table key) ++ leavesBelow table entries

end

/-- The properties of a table; of two with one name the later counts. -/
def Table.properties (table : Table) : Properties := SortedMap.ofList (leavesBelow "" table)

/-- The properties that a text describes, if it is a TOML document. -/
def properties? (text : String) : Option Properties := (Table.ofText? text).map Table.properties

example : (properties? "b = 'x'\n[a]\nc.d = [1, 2]\n").map SortedMap.entries =
    some [("a.c.d", "[1, 2]"), ("b", "x")] := by decide +kernel

/-! The first part of a name is left out if it is empty. -/

example : (properties? "['']\nx = 2").map SortedMap.entries = some [("x", "2")] := by
  decide +kernel

end Depot.Toml
