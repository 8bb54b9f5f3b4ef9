import Depot.Http.Percent
import Depot.Text

/-!
Where a request goes: percent-encoded keys and queries, and the parts of an endpoint. Letters,
digits and `-`, `_`, `.`, `~` stand for themselves; every other byte of a text's UTF-8 form is
written as a percent sign and two hexadecimal digits.
-/

namespace Depot.S3

/-- The characters that are never encoded. -/
def isUnreserved (character : Char) : Bool :=
  character.isAlphanum || character == '-' || character == '_' || character == '.' ||
    character == '~'

def encodeText (text : String) : String :=
  String.ofList (Http.Percent.encode isUnreserved text.toList)

/-- A key with each of its levels encoded and the delimiters kept. -/
def encodeKey (key : String) : String :=
  String.ofList (Text.join ['/'] ((Text.pieces '/' key.toList).map
    (Http.Percent.encode isUnreserved)))

/-- Whether an encoded parameter comes before another or at the same place: by name, then by
value. -/
def parameterLe (left right : String × String) : Bool :=
  decide (left.1 < right.1) || (left.1 == right.1 && !decide (right.2 < left.2))

def canonicalQuery (parameters : List (String × String)) : String :=
  let encoded := parameters.map fun (name, value) => (encodeText name, encodeText value)
  Text.joinStrings "&" ((encoded.mergeSort parameterLe).map fun (name, value) =>
    name ++ "=" ++ value)

/-- A location without `https://` or `http://` in front. -/
def withoutScheme (url : String) : List Char :=
  match Text.dropLead? "https://".toList url.toList with
  | some rest => rest
  | none => (Text.dropLead? "http://".toList url.toList).getD url.toList

/-- The authority of a location: what stands between its scheme and its path. -/
def authority (url : String) : String :=
  String.ofList ((withoutScheme url).takeWhile (· != '/'))

end Depot.S3
