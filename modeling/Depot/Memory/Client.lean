import Depot.Memory.Listing

/-!
How the store in memory answers the calls of a client. Reading calls leave the store as it is, and
an upload changes it only when it is finished.
-/

namespace Depot.Memory.Store

/-- The result for a key, or the error that names it if nothing is stored there. -/
def look (store : Store) (key : ObjectKey) : Except RepoError StoredObject :=
  match store.find? key with
  | some object => .ok object
  | none => .error (.notFound key.text)

def respond (store : Store) : (call : Call) → Call.Reply call × Store
  | .head key =>
      ((store.look key).map fun object =>
        { key, size := object.data.size, isDirectory := object.isDirectory }, store)
  | .openRead key => ((store.look key).map fun object => Reader.ofBytes object.data, store)
  | .openWrite key => (.ok (Upload.begin key), store)
  | .putMarker key => (.ok (), store.put key .marker)
  | .deleteMany keys =>
      let missing := store.missing keys.toKeys
      let result := if missing.isEmpty then .ok ()
        else .error (.notFound (Text.joinStrings ", " (missing.map ObjectKey.text)))
      (result, store.eraseAll keys.toKeys)
  | .listPage lead delimiter token => (.ok (store.listPage lead delimiter token), store)
  | .write upload chunk => ((.ok (), { upload with pending := upload.pending ++ chunk }), store)
  | .finish upload => (.ok (), store.insert upload.key upload.pending)
  | .abort _ => ((), store)

def run {Result : Type} (store : Store) (dialogue : StoreDialogue Result) : Result × Store :=
  dialogue.run respond store

end Depot.Memory.Store
