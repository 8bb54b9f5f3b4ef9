import Depot.Checksum.Crc32
import Depot.Client.Call
import Depot.Http
import Depot.Http.Location
import Depot.S3.Address
import Depot.S3.Document
import Depot.S3.Signature

/-!
A client of an S3 store. Each call becomes one or more commands; a command names what is asked of
the bucket or of one object, and becomes a signed request only when it is sent. Uploads are sent in
parts of a fixed size once one part is full, and in one piece if that never happens.
-/

namespace Depot.S3

/-- Where a store is and who asks. Requests are path-style: the bucket is the first level. -/
structure Client where
  bucket : String
  region : String
  endpoint : Option String
  accessKey : String
  secretKey : String
  /-- The location of the proxy that requests go through. -/
  proxy : Option String
  deriving DecidableEq, Repr

structure Command where
  method : Http.Method
  key : Option String
  query : List (String × String)
  headers : List (String × String)
  body : ByteArray

namespace Client

/-! ## Requests -/

/-- The location of the store, without delimiters at its end. -/
def base (client : Client) : String :=
  match client.endpoint with
  | some endpoint => String.ofList (Text.trimEnd '/' endpoint.toList)
  | none => "https://s3." ++ client.region ++ ".amazonaws.com"

def path (client : Client) (key : Option String) : String :=
  match key with
  | some key => "/" ++ client.bucket ++ "/" ++ encodeKey key
  | none => "/" ++ client.bucket

def credentials (client : Client) : Credentials where
  accessKey := client.accessKey
  secretKey := client.secretKey
  region := client.region

def url (client : Client) (command : Command) : String :=
  let query := canonicalQuery command.query
  client.base ++ client.path command.key ++ (if query = "" then "" else "?" ++ query)

def signedHeaders (client : Client) (stamp : Timestamp) (command : Command) : SortedMap String :=
  let own := [("host", authority client.base),
    ("x-amz-content-sha256", Sha256.hexDigest command.body), ("x-amz-date", stamp.dateTime)]
  SortedMap.ofList (own ++ command.headers.map fun (name, value) => (Text.lower name, value))

def request (client : Client) (stamp : Timestamp) (command : Command) : Http.Request :=
  let headers := client.signedHeaders stamp command
  let authorization := Signature.authorization client.credentials stamp command.method.name
    (client.path command.key) (canonicalQuery command.query) headers
    (Sha256.hexDigest command.body)
  { method := command.method
    url := client.url command
    headers := ("authorization", authorization) ::
      headers.entries.filter fun header => header.1 != "host"
    body := command.body }

/-- Whether the signature of a request can be sent. It names the access key and the region as they
are; all other headers can be sent in any case. -/
def canSendSignature (client : Client) : Bool :=
  Http.isSendable client.accessKey && Http.isSendable client.region

def unanswered (client : Client) (command : Command) (reason : String) : RepoError :=
  .transport ("S3 " ++ command.method.name ++ " request failed for '" ++ client.url command ++
    "': " ++ reason)

end Client

/-! ## Responses -/

structure Exchange where
  client : Client
  command : Command

/-- The reply to a command: a response, unless the request was not answered. -/
abbrev Exchange.Reply (_ : Exchange) : Type := Except RepoError Http.Response

/-- The reply to a command where no store can be reached. -/
def Exchange.refused (asked : Exchange) : Exchange.Reply asked :=
  .error (asked.client.unanswered asked.command
    (Http.Location.refusal (asked.client.url asked.command) asked.client.canSendSignature))

abbrev Task (Result : Type) : Type :=
  ExceptT RepoError (Dialogue Exchange Exchange.Reply) Result

/-- Refuse a response that is no success. A missing object is told apart by its status. -/
def check (operation subject : String) (response : Http.Response) :
    Except RepoError Http.Response :=
  if response.isSuccess then .ok response
  else if response.status = 404 then .error (.notFound subject)
  else .error (.transport ("S3 " ++ operation ++ " failed for '" ++ subject ++ "': HTTP " ++
    response.statusText ++ " - " ++ response.text))

namespace Client

def send (client : Client) (operation subject : String) (command : Command) :
    Task Http.Response := do
  let response ← ExceptT.mk (.ask ⟨client, command⟩ .done)
  check operation subject response

/-- A command without query, headers and body. -/
def plain (method : Http.Method) (key : String) : Command := ⟨method, some key, [], [], .empty⟩

/-! ## Single objects -/

def markerType : String := "application/x-directory"

def markerHeader : String := "x-amz-meta-directory"

/-- What the headers of a response tell about an object. A missing or unreadable size counts as
zero. -/
def metaOf (key : ObjectKey) (response : Http.Response) : ObjectMeta where
  key := key
  size :=
    match (response.header? "content-length").map (Numeral.readDecimal 18446744073709551615) with
    | some (.ok size) => size
    | _ => 0
  isDirectory :=
    response.header? "content-type" == some markerType ||
      ((response.header? markerHeader).map (Text.sameLetters "true")).getD false

def head (client : Client) (key : ObjectKey) : Task ObjectMeta := do
  return metaOf key (← client.send "HEAD" key.text (plain .head key.text))

def openRead (client : Client) (key : ObjectKey) : Task Reader := do
  return Reader.ofBytes (← client.send "GET" key.text (plain .get key.text)).body

def putMarker (client : Client) (key : ObjectKey) : Task Unit := do
  let _ ← client.send "PUT" key.text
    { plain .put key.text with headers := [("content-type", markerType), (markerHeader, "true")] }

/-! ## Many objects -/

/-- The most keys that one request can delete. -/
def batchSize : Nat := 1000

/-- A list in groups of `size`, the last of which may be smaller. -/
def batches {Item : Type} (size : Nat) (items : List Item) : List (List Item) :=
  if items.isEmpty ∨ size = 0 then []
  else items.take size :: batches size (items.drop size)
termination_by items.length
decreasing_by
  have filled : items ≠ [] := by
    intro empty
    simp_all
  have := List.length_pos_iff.mpr filled
  simp only [List.length_drop]
  omega

def deletionCommand (keys : List ObjectKey) : Command :=
  let body := (Document.deletion (keys.map ObjectKey.text)).toUTF8
  { method := .post
    key := none
    query := [("delete", "")]
    headers := [("content-type", "application/xml"),
      ("x-amz-checksum-crc32",
        String.ofList (Numeral.base64 (Bytes.ofWord (Crc32.checksum body)).toList)),
      ("x-amz-sdk-checksum-algorithm", "CRC32")]
    body := body }

/-- The keys that were missing, unless a failure is of another kind. -/
def missingKeys : List (String × String) → Except RepoError (List String)
  | [] => .ok []
  | (key, code) :: failures =>
      if code = "NoSuchKey" then (missingKeys failures).map (key :: ·)
      else .error (.transport (s!"S3 DeleteObjects failed for '{key}': {code}"))

/-- Delete batch after batch. The result is the keys that were missing. -/
def deleteBatches (client : Client) : List (List ObjectKey) → Task (List String)
  | [] => return []
  | batch :: batches => do
      let response ← client.send "DeleteObjects" client.bucket (deletionCommand batch)
      let missing ← missingKeys (Document.readFailures response.text)
      return missing ++ (← deleteBatches client batches)

def deleteMany (client : Client) (keys : KeySet) : Task Unit := do
  let missing ← client.deleteBatches (batches batchSize keys.toKeys)
  if !missing.isEmpty then throw (.notFound (Text.joinStrings ", " missing))

def listingCommand (lead : String) (delimiter token : Option String) : Command where
  method := .get
  key := none
  query := [("list-type", "2"), ("prefix", lead)] ++
    (delimiter.map fun delimiter => ("delimiter", delimiter)).toList ++
    (token.map fun token => ("continuation-token", token)).toList
  headers := []
  body := .empty

def listPage (client : Client) (lead : String) (delimiter token : Option String) :
    Task ListingPage := do
  let response ← client.send "LIST" lead (listingCommand lead delimiter token)
  return Document.readListing response.text

/-! ## Uploads -/

/-- The size of every part of an upload but the last, 16 MiB. -/
def partSize : Nat := 16777216

def startParts (client : Client) (key : String) : Task String := do
  let response ← client.send "CreateMultipartUpload" key
    { plain .post key with query := [("uploads", "")] }
  match Markup.first? response.text "UploadId" with
  | some uploadId => return Markup.unescape uploadId
  | none =>
      throw (.transport (s!"S3 CreateMultipartUpload for '{key}' returned no UploadId"))

/-- Send a part. The result is the tag that the store gave to it. -/
def sendPart (client : Client) (key uploadId : String) (number : Nat) (part : ByteArray) :
    Task String := do
  let response ← client.send "UploadPart" key
    { plain .put key with
      query := [("partNumber", toString number), ("uploadId", uploadId)]
      body := part }
  match response.header? "etag" with
  | some tag => return tag
  | none => throw (.transport (s!"S3 UploadPart for '{key}' returned no ETag"))

/-- Send the next part of an upload, which is begun first if this is its first part. The upload is
handed back even if the part could not be sent. -/
def flushPart (client : Client) (upload : Upload) (part : ByteArray) :
    Dialogue Exchange Exchange.Reply (Except RepoError Unit × Upload) := do
  let begun ← match upload.sent with
    | some sent => pure (.ok sent)
    | none => do
        let uploadId ← (client.startParts upload.key.text).run
        pure (uploadId.map fun uploadId => SentParts.mk uploadId [])
  match begun with
  | .error error => return (.error error, upload)
  | .ok sent =>
      let number := sent.parts.length + 1
      match ← (client.sendPart upload.key.text sent.uploadId number part).run with
      | .error error => return (.error error, { upload with sent := some sent })
      | .ok tag =>
          let sent := { sent with parts := sent.parts ++ [(number, tag)] }
          return (.ok (), { upload with sent := some sent })

/-- Send full parts from what is pending until less than a part is left. A part leaves the pending
bytes before it is sent. -/
def flushParts (client : Client) (upload : Upload) :
    (left : Nat) → Dialogue Exchange Exchange.Reply (Except RepoError Unit × Upload)
  | 0 => return (.ok (), upload)
  | left + 1 => do
      let part := upload.pending.extract 0 partSize
      let rest := upload.pending.extract partSize upload.pending.size
      match ← client.flushPart { upload with pending := rest } part with
      | (.error error, upload) => return (.error error, upload)
      | (.ok (), upload) => client.flushParts upload left

def write (client : Client) (upload : Upload) (chunk : ByteArray) :
    Dialogue Exchange Exchange.Reply (Except RepoError Unit × Upload) :=
  let upload := { upload with pending := upload.pending ++ chunk }
  client.flushParts upload (upload.pending.size / partSize)

/-- Complete an upload that was sent in parts. The store can report a failure in a response that
looks like a success. -/
def complete (client : Client) (key : String) (sent : SentParts) : Task Unit := do
  let response ← client.send "CompleteMultipartUpload" key
    { plain .post key with
      query := [("uploadId", sent.uploadId)]
      headers := [("content-type", "application/xml")]
      body := (Document.completion sent.parts).toUTF8 }
  if let some code := Markup.first? response.text "Code" then
    throw (.transport (s!"S3 CompleteMultipartUpload failed for '{key}': {code}"))

/-- Finish an upload: send what is pending as the whole object if no part was sent, or as the last
part if something is left, and complete the upload. -/
def finish (client : Client) (upload : Upload) : Task Unit := do
  match upload.sent with
  | none =>
      let _ ← client.send "PUT" upload.key.text
        { plain .put upload.key.text with body := upload.pending }
  | some sent =>
      if upload.pending.size = 0 then client.complete upload.key.text sent
      else
        match ← client.flushPart { upload with pending := .empty } upload.pending with
        | (.error error, _) => throw error
        | (.ok (), upload) => client.complete upload.key.text (upload.sent.getD sent)

/-- Abort an upload. Failing to do so is no error; an upload that has sent no part needs nothing. -/
def abort (client : Client) (upload : Upload) : Dialogue Exchange Exchange.Reply Unit := do
  match upload.sent with
  | none => return
  | some sent =>
      let _ ← (client.send "AbortMultipartUpload" upload.key.text
        { plain .delete upload.key.text with query := [("uploadId", sent.uploadId)] }).run
      return

/-! ## Calls -/

def respond (client : Client) :
    (call : Call) → Dialogue Exchange Exchange.Reply (Call.Reply call)
  | .head key => (client.head key).run
  | .openRead key => (client.openRead key).run
  | .openWrite key => .done (.ok (Upload.begin key))
  | .putMarker key => (client.putMarker key).run
  | .deleteMany keys => (client.deleteMany keys).run
  | .listPage lead delimiter token => (client.listPage lead delimiter token).run
  | .write upload chunk => client.write upload chunk
  | .finish upload => (client.finish upload).run
  | .abort upload => client.abort upload

end Client

end Depot.S3
