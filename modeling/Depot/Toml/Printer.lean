import Depot.Number.Shortest
import Depot.Toml.Quoted
import Depot.Toml.Value

/-!
Values of TOML written as text, on one line as far as texts allow it.
-/

namespace Depot.Toml.Value

def braced (entries : List String) : String :=
  if entries.isEmpty then "\x7b\x7d" else "\x7b " ++ Text.joinStrings ", " entries ++ " \x7d"

mutual

def write : Value → String
  | .text content => Quoted.write content
  | .integer number => toString number
  | .real number => number.text
  | .truth holds => if holds then "true" else "false"
  | .moment instant => instant.text
  | .array elements => "[" ++ Text.joinStrings ", " (writeElements elements) ++ "]"
  | .table entries => braced (writeEntries entries)

def writeElements : List Value → List String
  | [] => []
  | element :: elements => element.write :: writeElements elements

def writeEntries : List (String × Value) → List String
  | [] => []
  | (key, value) :: entries =>
      (Quoted.writeKey key ++ " = " ++ value.write) :: writeEntries entries

end

def display : Value → String
  | .text content => content
  | .moment instant =>
      braced [Quoted.writeKey Moment.key ++ " = " ++ Quoted.write instant.text]
  | value => value.write

end Depot.Toml.Value
