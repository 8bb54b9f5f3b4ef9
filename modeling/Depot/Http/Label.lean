import Depot.Http.Alphabet
import Depot.Http.Composition
import Depot.Http.Joining
import Depot.Http.Punycode

/-!
The labels of host names, which stand between the dots. A label with characters beyond ASCII is
written in Punycode behind `xn--`, and may be given in that form.
-/

namespace Depot.Http

structure Label where
  characters : List Char
  /-- The label in ASCII. -/
  written : List Char
  deriving Repr

namespace Label

/-- ASCII characters that no label may hold. -/
def isDenied (character : Char) : Bool :=
  character.toNat ≤ 0x20 || character.toNat == 0x7F || "%#/:<>?@[\\]^|".toList.contains character

/-- Whether a label may hold characters: none is denied, the first is no mark, and joiners fit.
There are no marks and no joiners in ASCII. -/
def isWellFormed (characters : List Char) : Bool :=
  !characters.any isDenied &&
    (Text.isAscii characters ||
      (!characters.head?.any Marks.isMark && Joining.allFit [] characters))

/-- Whether characters are what a label in Punycode may stand for: they are not all ASCII, each
stands for itself, and they are composed. -/
def needsPunycode (characters : List Char) : Bool :=
  !Text.isAscii characters &&
    characters.all (fun character => Alphabet.image? character == some [character]) &&
    Composition.compose characters == characters

def ofPunycode? (written : List Char) : Option Label := do
  if !Text.isAscii written || 2000 < written.length then none
  let characters ← Punycode.decode? written
  if needsPunycode characters then return ⟨characters, "xn--".toList ++ written⟩ else none

/-- The label of characters as they are. -/
def ofCharacters? (characters : List Char) : Option Label :=
  if Text.isAscii characters then some ⟨characters, characters⟩
  else if characters.length ≤ 1000 then
    some ⟨characters, "xn--".toList ++ Punycode.encode characters⟩
  else none

/-- The label that composed characters stand for. -/
def ofText? (text : List Char) : Option Label :=
  let label? :=
    match Text.dropLead? "xn--".toList text with
    | some written => ofPunycode? written
    | none => ofCharacters? text
  label?.filter (isWellFormed ·.characters)

example : (ofText? "shop".toList).map written = some "shop".toList := by decide
example : (ofText? "a shop".toList).isNone := by decide
example : (ofText? "xn--shop-".toList).isNone := by decide

end Label

end Depot.Http
