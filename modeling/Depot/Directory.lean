import Depot.Client.Call
import Depot.Path.Namespace

/-!
Directories over a store that knows only keys. In the hierarchical namespace a directory is a
marker object, or a lead that other keys share; in the flat namespace it is only such a lead.
-/

namespace Depot.Directory

def delimiterText : String := String.singleton delimiter

/-- The pages of a listing, up to the one without a continuation. A listing that has not ended
after `limit` pages is an error. -/
def collectPages (lead : String) (delimiter : Option String) (limit : Nat) :
    (left : Nat) → (token : Option String) → StoreTask (List ListingPage)
  | 0, _ => throw (.endlessListing limit)
  | left + 1, token => do
      let page ← Client.listPage lead delimiter token
      match page.continuation with
      | none => return [page]
      | some next => return page :: (← collectPages lead delimiter limit left (some next))

/-- Whether a listing has an entry that starts with its lead. Later pages are asked for only if the
pages before have none. -/
def hasEntryBelow (lead : String) (limit : Nat) :
    (left : Nat) → (token : Option String) → StoreTask Bool
  | 0, _ => throw (.endlessListing limit)
  | left + 1, token => do
      let page ← Client.listPage lead (some delimiterText) token
      if page.entries.any fun entry => Text.startsWith lead.toList entry.toList then return true
      match page.continuation with
      | none => return false
      | some next => hasEntryBelow lead limit left (some next)

/-- Whether a directory or file exists. The root always does. -/
def pathExists (layout : Namespace) (limit : Nat) (key : ObjectKey) : StoreTask Bool := do
  if key.isRoot then return true
  match layout with
  | .flat => Client.exists? key.trimDirectory
  | .hierarchical =>
      if ← Client.exists? key then return true
      -- A directory that was never marked still exists if there are keys below it.
      if key.isDirectoryForm then hasEntryBelow key.text limit limit none
      else return false

/-- The directories from one upwards that have no marker, the innermost first. The walk stops at
the root and at the first marker. -/
def unmarked (directory : ObjectKey) : StoreTask (List ObjectKey) := do
  if directory.isRoot then return []
  if ← Client.exists? directory then return []
  match found : directory.parent? with
  | none => return [directory]
  | some above =>
      have := ObjectKey.length_parent_lt found
      return directory :: (← unmarked above)
termination_by directory.length

def putMarkers : List ObjectKey → StoreTask Unit
  | [] => return
  | key :: keys => do
      Client.putMarker key
      putMarkers keys

/-- Store markers for a directory and for the directories around it that have none, the outermost
first. The flat namespace has no markers. -/
def create (layout : Namespace) (key : ObjectKey) : StoreTask Unit := do
  match layout with
  | .flat => return
  | .hierarchical => putMarkers (← unmarked key.asDirectory).reverse

def keysBelow (lead : String) (limit : Nat) : StoreTask (List String) := do
  let pages ← collectPages lead none limit limit none
  return (pages.flatMap ListingPage.keys).filter fun found =>
    Text.startsWith lead.toList found.toList

/-- Delete keys with one call, if there are any. -/
def deleteKeys (keys : List String) : StoreTask Unit :=
  if keys.isEmpty then return else Client.deleteMany (KeySet.ofKeys (keys.map ObjectKey.mk))

/-- Delete everything below a directory, its marker included. The root is never deleted. -/
def delete (limit : Nat) (key : ObjectKey) : StoreTask Unit :=
  if key.isRoot then throw (.invalidPath "refusing to delete the repository root")
  else do deleteKeys (← keysBelow key.trimDirectory.asDirectory.text limit)

/-- The child of a directory that an entry below `lead` belongs to: the rest of the entry up to and
including its first delimiter. -/
def child? (lead entry : String) : Option String :=
  match Text.dropLead? lead.toList entry.toList with
  | none => none
  | some [] => none
  | some rest => some (String.ofList ((Text.throughFirst? delimiter rest).getD rest))

/-- The children of a directory in increasing order, those that are directories with a delimiter at
the end. -/
def children (limit : Nat) (key : ObjectKey) : StoreTask (List String) := do
  let lead := key.trimDirectory.asDirectory.text
  let pages ← collectPages lead (some delimiterText) limit limit none
  return sortedDistinct ((pages.flatMap ListingPage.entries).filterMap (child? lead))

def classify (layout : Namespace) (key : ObjectKey) : StoreTask PathType := do
  match layout with
  | .flat =>
      return if delimiter ∈ key.trimDirectory.text.toList then .file else .directory
  | .hierarchical =>
      if key.isRoot then return .directory
      if ← Client.isDirectory key then return .directory
      if key.isDirectoryForm then return .file
      return if ← Client.isDirectory key.asDirectory then .directory else .file

end Depot.Directory
