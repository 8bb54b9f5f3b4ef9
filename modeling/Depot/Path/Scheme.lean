import Depot.Text

/-!
The schemes a location can carry. A scheme is recognised in any case and is always written small.
-/

namespace Depot

/-- The schemes that locations are written with, one for each namespace. -/
inductive Scheme where
  | s3
  | swarm
  deriving DecidableEq, Repr

namespace Scheme

/-- The scheme as it is written in front of a location. -/
def name : Scheme → String
  | .s3 => "s3"
  | .swarm => "swarm"

/-- What follows `name:` in a text, if the text starts so, in any case of the name's letters. -/
def afterName? (name : List Char) (text : List Char) : Option (List Char) :=
  match name, text with
  | [], ':' :: rest => some rest
  | [], _ => none
  | _ :: _, [] => none
  | expected :: name, first :: text =>
      if first.toLower = expected then afterName? name text else none

/-- The scheme at the head of a location, and what follows its colon. -/
def split? (raw : String) : Option (Scheme × String) :=
  match afterName? Scheme.s3.name.toList raw.toList with
  | some rest => some (.s3, String.ofList rest)
  | none =>
      (afterName? Scheme.swarm.name.toList raw.toList).map fun rest =>
        (.swarm, String.ofList rest)

example : split? "S3:/x" = some (.s3, "/x") := by decide

example : split? "s3x:/" = none := by decide

end Scheme

end Depot
