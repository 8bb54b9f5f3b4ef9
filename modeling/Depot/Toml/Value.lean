import Depot.Number.Binary64
import Depot.Toml.Moment

/-!
The values of TOML. A table is a list of entries with distinct keys.
-/

namespace Depot.Toml

inductive Value where
  | text (content : String)
  | integer (number : Int)
  | real (number : Binary64)
  | truth (holds : Bool)
  | moment (instant : Moment)
  | array (elements : List Value)
  | table (entries : List (String × Value))

abbrev Table := List (String × Value)

end Depot.Toml
