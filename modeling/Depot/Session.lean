import Depot.Repository

/-!
Sessions: the operations that a host calls on a repository, one after another and whatever comes of
each of them. What an operation returns is left out but for its error. A file that is written goes
to the store in chunks and is then finished, aborted or dropped.
-/

namespace Depot

/-- What becomes of a file that is being written. -/
inductive Ending where
  | finish
  | abort
  | drop
  deriving DecidableEq, Repr

inductive Operation where
  | createUri (location : String)
  | pathExists (path : LogicalPath)
  | createDirectory (path : LogicalPath)
  | deleteDirectory (path : LogicalPath)
  | listAll (path : LogicalPath)
  | pathType (path : LogicalPath)
  | delete (path : LogicalPath) (files : List String) (ignoreMissing : Bool)
  | openInput (path : LogicalPath) (file : String)
  | output (path : LogicalPath) (chunks : List ByteArray) (ending : Ending)
  | copyFrom (source : IndexSource) (sourceName : String) (target : LogicalPath)
      (targetName : String)
  | copyIndexFileTo (source : LogicalPath) (sourceName : String) (tree : Local.Tree)
      (directory targetName : String)
  | copyFileTo (source : LogicalPath) (file : String) (tree : Local.Tree) (directory : String)

namespace Repository

variable {Handle : Type}

/-- Write chunks to an upload. A write that fails does not keep the next one from being tried. -/
def writeChunks (upload : Upload) : List ByteArray → StoreDialogue Upload
  | [] => .done upload
  | chunk :: chunks => do
      let (_, upload) ← Client.write upload chunk
      writeChunks upload chunks

def output (repository : Repository Handle) (path : LogicalPath) (chunks : List ByteArray)
    (ending : Ending) : StoreTask Unit := do
  let upload ← ExceptT.lift (writeChunks (← repository.createOutput path) chunks)
  match ending with
  | .finish => Client.finish upload
  | .abort => ExceptT.lift (Client.abort upload)
  | .drop => return

def perform (repository : Repository Handle) : Operation → StoreTask Unit
  | .createUri location => do
      let _ ← repository.createUri location
  | .pathExists path => do
      let _ ← repository.exists? path
  | .createDirectory path => repository.createDirectory path
  | .deleteDirectory path => repository.deleteDirectory path
  | .listAll path => do
      let _ ← repository.listAll path
  | .pathType path => do
      let _ ← repository.pathType path
  | .delete path files ignoreMissing => repository.delete path files ignoreMissing
  | .openInput path file => do
      let _ ← repository.openInput path file
  | .output path chunks ending => repository.output path chunks ending
  | .copyFrom source sourceName target targetName =>
      repository.copyFrom source sourceName target targetName
  | .copyIndexFileTo source sourceName tree directory targetName => ExceptT.mk do
      let (copied, _) ← repository.copyIndexFileTo source sourceName tree directory targetName
      return copied
  | .copyFileTo source file tree directory => ExceptT.mk do
      let (copied, _) ← repository.copyFileTo source file tree directory
      return copied

/-- The operations of a session and the outcome of each. -/
def performAll (repository : Repository Handle) :
    List Operation → StoreDialogue (List (Except RepoError Unit))
  | [] => .done []
  | operation :: operations => do
      let outcome ← (repository.perform operation).run
      let outcomes ← performAll repository operations
      return outcome :: outcomes

end Repository

end Depot
