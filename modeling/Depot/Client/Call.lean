import Depot.Dialogue
import Depot.Path.Key
import Depot.SortedMap
import Depot.Stream

/-!
The calls that a client of an object store answers. A client only moves bytes and metadata of
single keys, and lists keys by what they start with; everything about directories is built above
it. Each call has its own type of reply, and most replies are a result or an error.
-/

namespace Depot

structure ObjectMeta where
  key : ObjectKey
  size : Nat
  isDirectory : Bool
  deriving DecidableEq, Repr

structure ListingPage where
  keys : List String
  /-- What the keys with a delimiter further on are rolled up into. -/
  commonLeads : List String
  /-- Where the next page begins; the last page has none. -/
  continuation : Option String
  deriving DecidableEq, Repr

def ListingPage.entries (page : ListingPage) : List String := page.keys ++ page.commonLeads

abbrev KeySet := SortedMap Unit

namespace KeySet

def ofKeys (keys : List ObjectKey) : KeySet :=
  SortedMap.ofList (keys.map fun key => (key.text, ()))

def toKeys (keys : KeySet) : List ObjectKey := keys.keys.map fun text => ⟨text⟩

end KeySet

/-- Texts in increasing order, each once. -/
def sortedDistinct (texts : List String) : List String :=
  (SortedMap.ofList (texts.map fun text => (text, ()))).keys

/-- The parts of an upload that have been sent on their own: the number the store gave to the
upload, and the number and tag of each part in the order they were sent. -/
structure SentParts where
  uploadId : String
  parts : List (Nat × String)
  deriving DecidableEq, Repr

/-- An object on its way into the store. Nothing of it is visible there before it is finished. -/
structure Upload where
  key : ObjectKey
  /-- The bytes that have been written and not yet been sent. -/
  pending : ByteArray
  sent : Option SentParts

def Upload.begin (key : ObjectKey) : Upload := ⟨key, .empty, none⟩

inductive Call where
  | head (key : ObjectKey)
  | openRead (key : ObjectKey)
  | openWrite (key : ObjectKey)
  /-- Store an empty directory marker. -/
  | putMarker (key : ObjectKey)
  /-- Delete objects. Keys that are not stored are reported after the others were deleted. -/
  | deleteMany (keys : KeySet)
  /-- One page of the keys that start with `lead`, behind `token`. With a delimiter, keys that
  hold it behind the lead are rolled up. -/
  | listPage (lead : String) (delimiter token : Option String)
  | write (upload : Upload) (chunk : ByteArray)
  /-- Make the object visible. -/
  | finish (upload : Upload)
  /-- Drop what was written. -/
  | abort (upload : Upload)

/-- The reply to a call. A write hands back the upload even if it fails, so that the upload can be
aborted. -/
abbrev Call.Reply : Call → Type
  | .head _ => Except RepoError ObjectMeta
  | .openRead _ => Except RepoError Reader
  | .openWrite _ => Except RepoError Upload
  | .putMarker _ => Except RepoError Unit
  | .deleteMany _ => Except RepoError Unit
  | .listPage _ _ _ => Except RepoError ListingPage
  | .write _ _ => Except RepoError Unit × Upload
  | .finish _ => Except RepoError Unit
  | .abort _ => Unit

abbrev StoreDialogue (Result : Type) : Type := Dialogue Call Call.Reply Result

abbrev StoreTask (Result : Type) : Type := ExceptT RepoError (Dialogue Call Call.Reply) Result

namespace Client

/-! ## One call each -/

def head (key : ObjectKey) : StoreTask ObjectMeta := ExceptT.mk (.ask (.head key) .done)

def openRead (key : ObjectKey) : StoreTask Reader := ExceptT.mk (.ask (.openRead key) .done)

def openWrite (key : ObjectKey) : StoreTask Upload := ExceptT.mk (.ask (.openWrite key) .done)

def putMarker (key : ObjectKey) : StoreTask Unit := ExceptT.mk (.ask (.putMarker key) .done)

def deleteMany (keys : KeySet) : StoreTask Unit := ExceptT.mk (.ask (.deleteMany keys) .done)

def listPage (lead : String) (delimiter token : Option String) : StoreTask ListingPage :=
  ExceptT.mk (.ask (.listPage lead delimiter token) .done)

def write (upload : Upload) (chunk : ByteArray) : StoreDialogue (Except RepoError Unit × Upload) :=
  .ask (.write upload chunk) .done

def finish (upload : Upload) : StoreTask Unit := ExceptT.mk (.ask (.finish upload) .done)

def abort (upload : Upload) : StoreDialogue Unit := .ask (.abort upload) .done

/-! ## Questions about a single key -/

/-- The metadata of the object at a key, or nothing if there is none. -/
def head? (key : ObjectKey) : StoreTask (Option ObjectMeta) := ExceptT.mk do
  match ← (head key).run with
  | .ok found => pure (.ok (some found))
  | .error (.notFound _) => pure (.ok none)
  | .error error => pure (.error error)

def exists? (key : ObjectKey) : StoreTask Bool := return (← head? key).isSome

/-- The size of the object at a key, which must not be a directory marker. -/
def headLength (key : ObjectKey) : StoreTask Nat := do
  let found ← head key
  if found.isDirectory then throw (.isDirectory key.text)
  return found.size

def isDirectory (key : ObjectKey) : StoreTask Bool := do
  match ← head? key with
  | some found => return found.isDirectory
  | none => return false

end Client

end Depot
