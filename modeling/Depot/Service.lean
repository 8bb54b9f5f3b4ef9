import Depot.Repository

/-!
A repository over its whole life, as the host that holds it sees it. The host gives it clients and
takes them away, and in between makes requests, with the files of its machine at hand. Each request
has its own type of reply; each call that it leads to carries the client that it was made to.
-/

namespace Depot

inductive Request where
  | property (name : String)
  | normalize (location : String)
  | resolve (base : LogicalPath) (components : List String)
  | resolveDirectory (base : LogicalPath) (components : List String)
  | createUri (location : String)
  | pathExists (path : LogicalPath)
  | createDirectory (path : LogicalPath)
  | deleteDirectory (path : LogicalPath)
  | listAll (path : LogicalPath)
  | pathType (path : LogicalPath)
  | delete (path : LogicalPath) (files : List String) (ignoreMissing : Bool)
  | openInput (path : LogicalPath) (file : String)
  | createOutput (path : LogicalPath)
  | copyIndexFileFrom (directory sourceName : String) (target : LogicalPath) (targetName : String)
  | copyFileFrom (directory file : String) (target : LogicalPath)
  | copyIndexFileTo (source : LogicalPath) (sourceName directory targetName : String)
  | copyFileTo (source : LogicalPath) (file directory : String)

abbrev Request.Reply : Request → Type
  | .property _ => Option String
  | .normalize _ => LogicalPath
  | .resolve _ _ => LogicalPath
  | .resolveDirectory _ _ => LogicalPath
  | .createUri _ => LogicalPath
  | .pathExists _ => Bool
  | .createDirectory _ => Unit
  | .deleteDirectory _ => Unit
  | .listAll _ => List String
  | .pathType _ => PathType
  | .delete _ _ _ => Unit
  | .openInput _ _ => RemoteInput
  | .createOutput _ => Upload
  | .copyIndexFileFrom _ _ _ _ => Unit
  | .copyFileFrom _ _ _ => Unit
  | .copyIndexFileTo _ _ _ _ => Unit
  | .copyFileTo _ _ _ => Unit

/-- What a host can do with a repository. How a client comes about from settings may differ from one
time to the next. -/
inductive Event (Handle : Type) where
  | init (connect : Settings → Except RepoError Handle) (properties : Properties)
      (environment : String → Option String)
  | initWith (connect : Settings → Except RepoError Handle) (properties : Properties)
      (settings : Settings)
  | close
  | request (request : Request)

abbrev Event.Outcome {Handle : Type} : Event Handle → Type
  | .init _ _ _ => Except RepoError Unit
  | .initWith _ _ _ => Except RepoError Unit
  | .close => Unit
  | .request asked => Except RepoError asked.Reply

/-- A call, with the client that it was made to. -/
structure Sent (Handle : Type) where
  client : Option Handle
  call : Call

abbrev Sent.Reply {Handle : Type} (sent : Sent Handle) : Type := Call.Reply sent.call

abbrev ServiceDialogue (Handle Result : Type) : Type := Dialogue (Sent Handle) Sent.Reply Result

/-- A dialogue whose calls are all made to one client. -/
def StoreDialogue.sentTo {Handle Result : Type} (client : Option Handle) :
    StoreDialogue Result → ServiceDialogue Handle Result
  | .done result => .done result
  | .ask call next => .ask ⟨client, call⟩ fun reply => sentTo client (next reply)

/-- A repository and the files of the machine that it works on. -/
structure Service (Handle : Type) where
  repository : Repository Handle
  tree : Local.Tree

namespace Service

variable {Handle : Type}

/-- A repository that has never had a client. -/
def new (layout : Namespace) (pageLimit : Nat) (tree : Local.Tree) : Service Handle :=
  ⟨.new layout pageLimit, tree⟩

/-- Do what leaves the local files alone. -/
def apart {Result : Type} (tree : Local.Tree) (task : StoreTask Result) :
    StoreDialogue (Except RepoError Result × Local.Tree) := do
  return (← task.run, tree)

/-- Serve a request. The local files are handed back in any case. -/
def serve (repository : Repository Handle) (tree : Local.Tree) : (request : Request) →
    StoreDialogue (Except RepoError request.Reply × Local.Tree)
  | .property name => .done (.ok (repository.property? name), tree)
  | .normalize location => .done (repository.layout.normalize location, tree)
  | .resolve base components => .done (repository.layout.resolve base components, tree)
  | .resolveDirectory base components =>
      .done (repository.layout.resolveDirectory base components, tree)
  | .createUri location => apart tree (repository.createUri location)
  | .pathExists path => apart tree (repository.exists? path)
  | .createDirectory path => apart tree (repository.createDirectory path)
  | .deleteDirectory path => apart tree (repository.deleteDirectory path)
  | .listAll path => apart tree (repository.listAll path)
  | .pathType path => apart tree (repository.pathType path)
  | .delete path files ignoreMissing => apart tree (repository.delete path files ignoreMissing)
  | .openInput path file => apart tree (repository.openInput path file)
  | .createOutput path => apart tree (repository.createOutput path)
  | .copyIndexFileFrom directory sourceName target targetName =>
      apart tree (repository.copyIndexFileFrom tree directory sourceName target targetName)
  | .copyFileFrom directory file target =>
      apart tree (repository.copyFileFrom tree directory file target)
  | .copyIndexFileTo source sourceName directory targetName =>
      repository.copyIndexFileTo source sourceName tree directory targetName
  | .copyFileTo source file directory => repository.copyFileTo source file tree directory

/-- What comes of an event, and the service afterwards. -/
def step (service : Service Handle) :
    (event : Event Handle) → ServiceDialogue Handle (event.Outcome × Service Handle)
  | .init connect properties environment =>
      let (outcome, repository) := service.repository.init connect properties environment
      .done (outcome, { service with repository })
  | .initWith connect properties settings =>
      let (outcome, repository) := service.repository.initWith connect properties settings
      .done (outcome, { service with repository })
  | .close => .done ((), { service with repository := service.repository.close })
  | .request request =>
      (StoreDialogue.sentTo service.repository.client
        (serve service.repository service.tree request)).andThen fun (outcome, tree) =>
          .done (outcome, { service with tree })

/-- The service after events, one after another, whatever comes of each of them. -/
def play (service : Service Handle) :
    List (Event Handle) → ServiceDialogue Handle (Service Handle)
  | [] => .done service
  | event :: events => (service.step event).andThen fun (_, service) => service.play events

end Service

end Depot
