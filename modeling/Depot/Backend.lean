import Depot.Config
import Depot.Memory.Client
import Depot.S3.Client

/-!
The stores that a repository can work on: one in memory, or an S3 store behind a client. Settings
choose between them. Calls are answered by a dialogue of commands, which is empty for a store in
memory.
-/

namespace Depot

inductive Backend where
  | memory (store : Memory.Store)
  | s3 (client : S3.Client)

namespace Backend

def s3Client (settings : Settings) : S3.Client where
  bucket := settings.bucketName
  region := settings.region
  endpoint := settings.endpoint
  accessKey := settings.accessKey
  secretKey := settings.secretKey
  proxy := settings.proxy.map Proxy.url

/-- Fails if there cannot be a proxy where there should be one. -/
def requireProxy (location : String) : Except RepoError Unit :=
  if Http.Location.canBeProxy location then .ok ()
  else .error (.config s!"invalid proxy '{location}': builder error")

def connect (settings : Settings) : Except RepoError Backend := do
  if settings.mock then return .memory .empty
  let client := s3Client settings
  if let some location := client.proxy then requireProxy location
  return .s3 client

def respond (backend : Backend) (call : Call) :
    Dialogue S3.Exchange S3.Exchange.Reply (Call.Reply call × Backend) :=
  match backend with
  | .memory store =>
      let (reply, store) := store.respond call
      .done (reply, .memory store)
  | .s3 client => (client.respond call).andThen fun reply => .done (reply, .s3 client)

/-- Answer a call, with commands answered by a world that may change. -/
def answer {World : Type}
    (exchange : World → (asked : S3.Exchange) → S3.Exchange.Reply asked × World)
    (state : Backend × World) (call : Call) : Call.Reply call × (Backend × World) :=
  let ((reply, backend), world) := (state.1.respond call).run exchange state.2
  (reply, (backend, world))

end Backend

end Depot
