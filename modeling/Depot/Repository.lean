import Depot.Config
import Depot.Directory
import Depot.Local.IndexDirectory

/-!
A repository of backups: what a search server calls to copy index files into an object store and to
get them back. A repository has a client from a successful `init` on until it is closed; what the
client is, is a parameter. Operations are dialogues over the client's calls.
-/

namespace Depot

structure Repository (Handle : Type) where
  layout : Namespace
  chunkSize : Nat
  /-- The most pages that a listing may have. -/
  pageLimit : Nat
  properties : Properties
  client : Option Handle

structure RemoteInput where
  key : ObjectKey
  length : Nat
  reader : Reader

namespace Repository

variable {Handle : Type}

/-! ## Life -/

def new (layout : Namespace) (pageLimit : Nat) : Repository Handle where
  layout := layout
  chunkSize := Transfer.defaultChunkSize
  pageLimit := pageLimit
  properties := .empty
  client := none

/-- Take properties and a new client, instead of those from before. If there is no such client, the
repository stays as it is. -/
def initWith (repository : Repository Handle) (connect : Settings → Except RepoError Handle)
    (properties : Properties) (settings : Settings) : Except RepoError Unit × Repository Handle :=
  match connect settings with
  | .error error => (.error error, repository)
  | .ok client => (.ok (), { repository with properties := properties, client := some client })

/-- Take properties and the client that their settings ask for. If these cannot be read, the
repository stays as it is. -/
def init (repository : Repository Handle) (connect : Settings → Except RepoError Handle)
    (properties : Properties) (environment : String → Option String) :
    Except RepoError Unit × Repository Handle :=
  match Settings.resolve properties environment with
  | .error error => (.error error, repository)
  | .ok settings => repository.initWith connect properties settings

def close (repository : Repository Handle) : Repository Handle := { repository with client := none }

def property? (repository : Repository Handle) (name : String) : Option String :=
  repository.properties.find? name

/-- Fails unless there is a client. -/
def requireClient (repository : Repository Handle) : Except RepoError Unit :=
  if repository.client.isSome then .ok () else .error (.config "repository not initialized")

def requireName (name message : String) : Except RepoError Unit :=
  if name = "" then .error (.invalidPath message) else .ok ()

/-! ## Paths -/

def keyBelow (repository : Repository Handle) (path : LogicalPath) (name : String) :
    Except RepoError ObjectKey := do
  Namespace.fileKey (← repository.layout.resolve path [name])

/-! ## Directories -/

def exists? (repository : Repository Handle) (path : LogicalPath) : StoreTask Bool := do
  repository.requireClient
  Directory.pathExists repository.layout repository.pageLimit (Namespace.objectKey path)

def createDirectory (repository : Repository Handle) (path : LogicalPath) : StoreTask Unit := do
  repository.requireClient
  Directory.create repository.layout (repository.layout.directoryKey path)

/-- Normalize a location and make sure that its directory exists. If the directory cannot be made,
the path is the result all the same. -/
def createUri (repository : Repository Handle) (location : String) : StoreTask LogicalPath := do
  let path ← repository.layout.normalize location
  let ensure : StoreTask Unit := do
    if !(← repository.exists? path) then repository.createDirectory path
  ExceptT.mk do
    let _ ← ensure.run
    return .ok path

def deleteDirectory (repository : Repository Handle) (path : LogicalPath) : StoreTask Unit := do
  repository.requireClient
  Directory.delete repository.pageLimit (repository.layout.directoryKey path)

def listAll (repository : Repository Handle) (path : LogicalPath) : StoreTask (List String) := do
  repository.requireClient
  Directory.children repository.pageLimit (Namespace.objectKey path)

def pathType (repository : Repository Handle) (path : LogicalPath) : StoreTask PathType := do
  repository.requireClient
  Directory.classify repository.layout (Namespace.objectKey path)

/-! ## Files -/

/-- Delete files below a path. All names are resolved before anything is deleted. Unless they are to
be ignored, files that are not stored are an error. -/
def delete (repository : Repository Handle) (path : LogicalPath) (files : List String)
    (ignoreMissing : Bool) : StoreTask Unit := do
  let keys ← (files.mapM (repository.keyBelow path) : Except RepoError (List ObjectKey))
  if keys.isEmpty then return
  repository.requireClient
  ExceptT.mk do
    match ← (Client.deleteMany (KeySet.ofKeys keys)).run with
    | .error (.notFound missing) =>
        return if ignoreMissing then .ok () else .error (.notFound missing)
    | result => return result

def openInput (repository : Repository Handle) (path : LogicalPath) (file : String) :
    StoreTask RemoteInput := do
  requireName file "need a valid file name to read from the store"
  let key ← repository.keyBelow path file
  repository.requireClient
  let length ← Client.headLength key
  let reader ← Client.openRead key
  return { key, length, reader }

/-- Begin to write a file. -/
def createOutput (repository : Repository Handle) (path : LogicalPath) : StoreTask Upload := do
  let key ← Namespace.fileKey path
  repository.requireClient
  Client.openWrite key

/-! ## Backup -/

/-- Fails unless both names of a copy are there. -/
def requireNames (source target : String) : Except RepoError Unit := do
  requireName source "must have a valid source file name to copy"
  requireName target "must have a valid destination file name to copy"

/-- Make the directory that a key lies in, if it lies in one. -/
def createParent (layout : Namespace) (key : ObjectKey) : StoreTask Unit :=
  match key.parent? with
  | none => return
  | some parent => Directory.create layout parent

/-- What a backup needs before it asks the store for anything: the key that it writes to, and the
opened file, which has to be longer than its record. -/
def prepare (repository : Repository Handle) (source : IndexSource) (sourceName : String)
    (target : LogicalPath) (targetName : String) : Except RepoError (ObjectKey × IndexInput) := do
  requireNames sourceName targetName
  let key ← repository.keyBelow target targetName
  repository.requireClient
  let input ← source.openInput sourceName
  if input.length ≤ source.footerLength then .error (Transfer.tooSmall input)
  else .ok (key, input)

def copyFrom (repository : Repository Handle) (source : IndexSource) (sourceName : String)
    (target : LogicalPath) (targetName : String) : StoreTask Unit := do
  let (key, input) ← repository.prepare source sourceName target targetName
  createParent repository.layout key
  let _ ← Transfer.intoStore repository.chunkSize input source.footerLength key

def copyIndexFileFrom (repository : Repository Handle) (tree : Local.Tree)
    (directory sourceName : String) (target : LogicalPath) (targetName : String) :
    StoreTask Unit :=
  repository.copyFrom (tree.source directory) sourceName target targetName

/-- Copy a file of a local directory to the same name below a path. -/
def copyFileFrom (repository : Repository Handle) (tree : Local.Tree) (directory file : String)
    (target : LogicalPath) : StoreTask Unit :=
  repository.copyIndexFileFrom tree directory file target file

/-! ## Restore -/

/-- Copy a file below a path to a name in a local directory. The tree is handed back in any case:
the local file stays if the copy fails after it was created. -/
def copyIndexFileTo (repository : Repository Handle) (source : LogicalPath) (sourceName : String)
    (tree : Local.Tree) (directory targetName : String) :
    StoreDialogue (Except RepoError Unit × Local.Tree) := do
  let key : Except RepoError ObjectKey := do
    requireNames sourceName targetName
    let key ← repository.keyBelow source sourceName
    repository.requireClient
    return key
  match key with
  | .error error => return (.error error, tree)
  | .ok key =>
      -- A missing key is noticed before a local file is created.
      match ← (Client.headLength key).run with
      | .error error => return (.error error, tree)
      | .ok _ =>
          match tree.createOutput directory targetName with
          | (.error error, tree) => return (.error error, tree)
          | (.ok names, tree) =>
              let (copied, file) ← Transfer.outOfStore repository.chunkSize key .unlimited
              return (copied.map fun _ => (), tree.put names (.file file.received))

/-- What follows the first delimiter of a name, or the name if it has none. -/
def afterFirstDelimiter (name : String) : String :=
  match Text.cutAt? delimiter name.toList with
  | some (_, rest) => String.ofList rest
  | none => name

/-- Copy a file below a path to a local directory. In the flat namespace the name is a full key,
and the local file is named by what follows its first delimiter. -/
def copyFileTo (repository : Repository Handle) (source : LogicalPath) (file : String)
    (tree : Local.Tree) (directory : String) :
    StoreDialogue (Except RepoError Unit × Local.Tree) :=
  match repository.layout with
  | .hierarchical => repository.copyIndexFileTo source file tree directory file
  | .flat =>
      repository.copyIndexFileTo repository.layout.root file tree directory
        (afterFirstDelimiter file)

end Repository

end Depot
