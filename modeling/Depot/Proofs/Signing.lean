import Mathlib.Data.List.TakeWhile
import Depot.Http.Location
import Depot.Proofs.Encoding
import Depot.Proofs.Exchanges
import Depot.Proofs.Keys
import Depot.S3.Client

/-!
Where a request goes, as its location is written, and what its signature says of that. The location
is written from the whole endpoint, while the signature names the authority of the endpoint, the path
below it and the query. So where an endpoint has a path, or a bucket has a sign that ends a path, the
request asks for another path than the one that was signed.

All of this is about the location as it is written. Whoever asks for a location reads it first
(`Http.Location.read`): segments of dots are resolved, the host is brought into its own form, and a
user and the usual port are left out. `Depot.Proofs.Verbatim` says when such a reader leaves the path
and the query alone.
-/

namespace Depot

namespace SortedMap

variable {Value : Type} {entries : List (String × Value)} {key : String}

/-- The first of the entries is found if no later one has its key. -/
theorem find?_ofList_cons_of_not_mem (value : Value) (once : key ∉ entries.map Prod.fst) :
    (ofList ((key, value) :: entries)).find? key = some value := by
  have absent : entries.reverse.lookup key = none := by
    rw [List.lookup_eq_none_iff]
    intro entry member
    have different : key ≠ entry.1 := fun same =>
      once (same ▸ List.mem_map_of_mem (List.mem_reverse.mp member))
    simpa using different
  rw [find?_ofList, List.reverse_cons, List.lookup_append, absent, Option.none_or,
    List.lookup_cons_self]

end SortedMap

namespace S3

/-! ## Locations as they are written -/

/-- Who is asked by a location, and for what. -/
structure Target where
  authority : String
  path : String
  query : String
  deriving DecidableEq, Repr

namespace Target

def goesOnPath (character : Char) : Bool := !Http.Location.endsPath character

def goesOnAuthority (character : Char) : Bool := character != '/' && goesOnPath character

/-- The query in what follows a path. -/
def queryOf : List Char → List Char
  | '?' :: text => text.takeWhile (· != '#')
  | _ => []

/-- The target that follows a scheme and two slashes. -/
def behindScheme (text : List Char) : Target :=
  let behind := text.dropWhile goesOnAuthority
  { authority := String.ofList (text.takeWhile goesOnAuthority)
    path := String.ofList (behind.takeWhile goesOnPath)
    query := String.ofList (queryOf (behind.dropWhile goesOnPath)) }

/-- Read the target of a location. The authority goes up to the path, the path up to the query, and
the query up to the fragment, each of which may be missing. -/
def ofUrl? (url : String) : Option Target := do
  let (_, rest) ← Text.cutAt? ':' url.toList
  let rest ← Text.dropLead? ['/', '/'] rest
  return behindScheme rest

example : ofUrl? "https://host:90/a/b?c=d#e" = some ⟨"host:90", "/a/b", "c=d"⟩ := by decide

theorem goesOnPath_iff {text : List Char} :
    (∀ character ∈ text, goesOnPath character = true) ↔ '?' ∉ text ∧ '#' ∉ text := by
  simp only [goesOnPath, Http.Location.endsPath, Bool.not_eq_true', Bool.or_eq_false_iff,
    beq_eq_false_iff_ne]
  constructor
  · intro goesOn
    exact ⟨fun member => (goesOn _ member).1 rfl, fun member => (goesOn _ member).2 rfl⟩
  · rintro ⟨noQuery, noFragment⟩ character member
    exact ⟨ne_of_mem_of_not_mem member noQuery, ne_of_mem_of_not_mem member noFragment⟩

theorem ofUrl?_of_scheme {url : String} {scheme rest : List Char} (noColon : ':' ∉ scheme)
    (isLocation : url.toList = scheme ++ ("://".toList ++ rest)) :
    ofUrl? url = some (behindScheme rest) := by
  have cut : Text.cutAt? ':' url.toList = some (scheme, '/' :: '/' :: rest) := by
    rw [isLocation]
    exact Text.cutAt?_append noColon _
  rw [ofUrl?, cut]
  rfl

/-- A path that follows an authority ends it. -/
theorem behindScheme_append {authority behind : List Char}
    (goesOn : ∀ character ∈ authority, goesOnAuthority character = true)
    (isRooted : behind.head? = some '/') :
    behindScheme (authority ++ behind) =
      { authority := String.ofList authority
        path := String.ofList (behind.takeWhile goesOnPath)
        query := String.ofList (queryOf (behind.dropWhile goesOnPath)) } := by
  rcases List.head?_eq_some_iff.mp isRooted with ⟨others, rfl⟩
  have ends : goesOnAuthority '/' = false := rfl
  rw [behindScheme, List.takeWhile_append_of_pos goesOn, List.dropWhile_append_of_pos goesOn,
    List.takeWhile_cons_of_neg (by simp [ends]), List.dropWhile_cons_of_neg (by simp [ends]),
    List.append_nil]

end Target

/-- The location of a store: an authority on the web, with a path that may be missing. -/
structure Endpoint where
  isSecure : Bool
  authority : String
  path : String
  filled : authority ≠ ""
  plainAuthority : '/' ∉ authority.toList ∧ '?' ∉ authority.toList ∧ '#' ∉ authority.toList
  rooted : path = "" ∨ path.toList.head? = some '/'
  plainPath : '?' ∉ path.toList ∧ '#' ∉ path.toList

namespace Endpoint

variable (endpoint : Endpoint)

def scheme : String := if endpoint.isSecure then "https" else "http"

def text : String := endpoint.scheme ++ "://" ++ endpoint.authority ++ endpoint.path

/-- The path without slashes at its end. -/
def front : List Char := Text.trimEnd '/' endpoint.path.toList

theorem toList_text : endpoint.text.toList = endpoint.scheme.toList ++
    ("://".toList ++ (endpoint.authority.toList ++ endpoint.path.toList)) := by
  simp [text, String.toList_append, List.append_assoc]

theorem colon_not_mem_scheme : ':' ∉ endpoint.scheme.toList := by
  rw [scheme]
  cases endpoint.isSecure <;> decide

theorem goesOnAuthority : ∀ character ∈ endpoint.authority.toList,
    Target.goesOnAuthority character = true := by
  have goesOn := Target.goesOnPath_iff.mpr endpoint.plainAuthority.2
  intro character member
  rw [Target.goesOnAuthority, goesOn character member, Bool.and_true, bne_iff_ne]
  exact ne_of_mem_of_not_mem member endpoint.plainAuthority.1

/-- Trimming an endpoint trims its path. -/
theorem trimEnd_text : Text.trimEnd '/' endpoint.text.toList =
    endpoint.scheme.toList ++ ("://".toList ++ (endpoint.authority.toList ++ endpoint.front)) := by
  have something : endpoint.authority.toList ≠ [] := by simpa using endpoint.filled
  have isOpen : Text.endsWith '/'
      (endpoint.scheme.toList ++ "://".toList ++ endpoint.authority.toList) = false := by
    rw [Text.endsWith_append _ something]
    exact Text.endsWith_of_not_mem endpoint.plainAuthority.1
  rw [toList_text, ← List.append_assoc, ← List.append_assoc, Text.trimEnd_append (.inr isOpen),
    List.append_assoc, List.append_assoc, front]

theorem head?_front : endpoint.front = [] ∨ endpoint.front.head? = some '/' := by
  rcases Text.trimEnd_append_replicate '/' endpoint.path.toList with ⟨count, whole⟩
  rcases front : endpoint.front with _ | ⟨first, others⟩
  · exact .inl rfl
  · rw [Endpoint.front] at front
    rcases endpoint.rooted with noPath | isRooted
    · rw [noPath] at front
      cases front
    · rw [whole, front, List.cons_append, List.head?_cons] at isRooted
      exact .inr isRooted

theorem goesOnPath_front : ∀ character ∈ endpoint.front, Target.goesOnPath character = true := by
  intro character member
  rcases Text.trimEnd_append_replicate '/' endpoint.path.toList with ⟨count, whole⟩
  apply Target.goesOnPath_iff.mpr endpoint.plainPath
  rw [whole]
  exact List.mem_append_left _ member

end Endpoint

/-! ## Requests -/

/-- The names of the headers of a command, as they are signed. -/
def Command.headerNames (command : Command) : List String :=
  command.headers.map fun header => Text.lower header.1

/-- Whether a command names no host of its own. -/
def Command.LeavesHost (command : Command) : Prop := "host" ∉ command.headerNames

instance (command : Command) : Decidable command.LeavesHost :=
  inferInstanceAs (Decidable ("host" ∉ command.headerNames))

/-- Whether a command is one of a client, and names no host of its own. -/
def Exchange.IsPlain (client : Client) (asked : Exchange) : Prop :=
  asked.client = client ∧ asked.command.LeavesHost

namespace Client

open Target

variable (client : Client)

/-- The location of the store as it is given, or the usual one of the region. -/
def place : String := client.endpoint.getD ("https://s3." ++ client.region ++ ".amazonaws.com")

theorem base_eq : client.base = String.ofList (Text.trimEnd '/' client.place.toList) := by
  rw [base, place]
  cases client.endpoint with
  | some endpoint => rfl
  | none =>
      have isOpen (front : List Char) :
          Text.endsWith '/' (front ++ ".amazonaws.com".toList) = false := by
        rw [Text.endsWith_append front (by decide)]
        rfl
      rw [Option.getD_none, Text.trimEnd_of_not_endsWith, String.ofList_toList]
      rw [String.toList_append]
      exact isOpen _

/-- What the signature of a request says of its location: the host among the signed headers, the
path and the query. -/
def signedTarget? (stamp : Timestamp) (command : Command) : Option Target :=
  ((client.signedHeaders stamp command).find? "host").map fun host =>
    { authority := host
      path := client.path command.key
      query := canonicalQuery command.query }

variable {client} {endpoint : Endpoint} {sign : Char}

/-- A sign that is always encoded stands in a path only if it stands in the bucket. -/
theorem mem_path_iff (isSign : isUnreserved sign = false) (notPercent : sign ≠ '%')
    (notSlash : sign ≠ '/') {key : Option String} :
    sign ∈ (client.path key).toList ↔ sign ∈ client.bucket.toList := by
  cases key with
  | none => simp [path, notSlash]
  | some key =>
      have absent : sign ∉ (encodeKey key).toList := by
        intro member
        rcases mem_encodeKey member with stays | isPercent | isSlash
        · rw [isSign] at stays
          cases stays
        · exact notPercent isPercent
        · exact notSlash isSlash
      simp [path, notSlash, absent]

theorem goesOnPath_path {key : Option String} :
    (∀ character ∈ (client.path key).toList, goesOnPath character = true) ↔
      '?' ∉ client.bucket.toList ∧ '#' ∉ client.bucket.toList := by
  rw [goesOnPath_iff, mem_path_iff (by decide) (by decide) (by decide),
    mem_path_iff (by decide) (by decide) (by decide)]

theorem fragment_not_mem_canonicalQuery (parameters : List (String × String)) :
    '#' ∉ (canonicalQuery parameters).toList := by
  intro member
  rcases mem_canonicalQuery member with stays | isSign
  · cases stays
  · simp at isSign

theorem toList_base (isPlace : client.place = endpoint.text) : client.base.toList =
    endpoint.scheme.toList ++ ("://".toList ++ (endpoint.authority.toList ++ endpoint.front)) := by
  rw [base_eq, isPlace, String.toList_ofList, endpoint.trimEnd_text]

theorem withoutScheme_of_endpoint {url : String} {rest : List Char}
    (isLocation : url.toList = endpoint.scheme.toList ++ ("://".toList ++ rest)) :
    withoutScheme url = rest := by
  rw [withoutScheme, isLocation, Endpoint.scheme]
  cases endpoint.isSecure <;> rfl

/-- The host that is signed is the authority of the endpoint. -/
theorem authority_base (isPlace : client.place = endpoint.text) :
    authority client.base = endpoint.authority := by
  have plain : ∀ character ∈ endpoint.authority.toList, (character != '/') = true := by
    intro character member
    rw [bne_iff_ne]
    exact ne_of_mem_of_not_mem member endpoint.plainAuthority.1
  have ends : endpoint.front.takeWhile (· != '/') = [] := by
    rcases endpoint.head?_front with noFront | isRooted
    · rw [noFront, List.takeWhile_nil]
    · rcases List.head?_eq_some_iff.mp isRooted with ⟨others, isFront⟩
      rw [isFront]
      rfl
  rw [authority, withoutScheme_of_endpoint (toList_base isPlace),
    List.takeWhile_append_of_pos plain, ends, List.append_nil, String.ofList_toList]

theorem host_signedHeaders (isPlace : client.place = endpoint.text) {command : Command}
    (leavesHost : command.LeavesHost) (stamp : Timestamp) :
    (client.signedHeaders stamp command).find? "host" = some endpoint.authority := by
  rw [← authority_base isPlace, signedHeaders]
  apply SortedMap.find?_ofList_cons_of_not_mem
  have others : "host" ∉ ["x-amz-content-sha256", "x-amz-date"] := by decide
  simpa [Command.LeavesHost, Command.headerNames] using leavesHost

/-! ## Targets -/

/-- What follows the authority in the location of a request. -/
def behindAuthority (client : Client) (endpoint : Endpoint) (command : Command) : List Char :=
  endpoint.front ++ ((client.path command.key).toList ++
    if canonicalQuery command.query = "" then [] else '?' :: (canonicalQuery command.query).toList)

theorem toList_url (isPlace : client.place = endpoint.text) (command : Command) :
    (client.url command).toList = endpoint.scheme.toList ++
      ("://".toList ++ (endpoint.authority.toList ++ client.behindAuthority endpoint command)) := by
  rw [url, behindAuthority]
  split
  · simp [String.toList_append, toList_base isPlace]
  · simp [String.toList_append, toList_base isPlace]

theorem head?_front_append_path (client : Client) (endpoint : Endpoint) (key : Option String) :
    (endpoint.front ++ (client.path key).toList).head? = some '/' := by
  have isPath : (client.path key).toList.head? = some '/' := by
    cases key <;> simp [path]
  rcases endpoint.head?_front with noFront | isRooted
  · rw [noFront, List.nil_append, isPath]
  · rw [List.head?_append, isRooted, Option.some_or]

theorem head?_behindAuthority (command : Command) :
    (client.behindAuthority endpoint command).head? = some '/' := by
  rw [behindAuthority, ← List.append_assoc, List.head?_append, head?_front_append_path,
    Option.some_or]

theorem ofUrl?_url (isPlace : client.place = endpoint.text) (command : Command) :
    Target.ofUrl? (client.url command) = some
      { authority := endpoint.authority
        path := String.ofList ((client.behindAuthority endpoint command).takeWhile goesOnPath)
        query := String.ofList
          (queryOf ((client.behindAuthority endpoint command).dropWhile goesOnPath)) } := by
  rw [ofUrl?_of_scheme endpoint.colon_not_mem_scheme (toList_url isPlace command),
    behindScheme_append endpoint.goesOnAuthority (head?_behindAuthority command),
    String.ofList_toList]

/-- Where nothing in the bucket ends a path, all that follows the authority is as it was signed, but
for what stands in front of the path. -/
theorem behindAuthority_of_plain (endpoint : Endpoint) (command : Command)
    (plain : '?' ∉ client.bucket.toList ∧ '#' ∉ client.bucket.toList) :
    (client.behindAuthority endpoint command).takeWhile goesOnPath =
        endpoint.front ++ (client.path command.key).toList ∧
      queryOf ((client.behindAuthority endpoint command).dropWhile goesOnPath) =
        (canonicalQuery command.query).toList := by
  have goesOnFront := endpoint.goesOnPath_front
  have goesOn : ∀ character ∈ (client.path command.key).toList, goesOnPath character = true :=
    goesOnPath_path.mpr plain
  rw [behindAuthority, List.takeWhile_append_of_pos goesOnFront,
    List.takeWhile_append_of_pos goesOn, List.dropWhile_append_of_pos goesOnFront,
    List.dropWhile_append_of_pos goesOn]
  split
  next noQuery =>
    rw [noQuery]
    exact ⟨by simp, rfl⟩
  next someQuery =>
    have ends : goesOnPath '?' = false := rfl
    rw [List.takeWhile_cons_of_neg (by simp [ends]), List.dropWhile_cons_of_neg (by simp [ends]),
      List.append_nil, queryOf]
    refine ⟨rfl, ?_⟩
    rw [List.takeWhile_eq_self_iff]
    intro character member
    rw [bne_iff_ne]
    exact ne_of_mem_of_not_mem member (fragment_not_mem_canonicalQuery command.query)

/-! ## Commands -/

open Dialogue

variable (client)

/-- A command that is sent leaves the host alone if none of its headers has that name. -/
theorem asks_named {operation subject : String} {command : Command} (names : List String)
    (areNames : command.headers.map Prod.fst = names) (noHost : "host" ∉ names.map Text.lower) :
    (client.send operation subject command).run.Asks (Exchange.IsPlain client) := by
  refine asks_send ⟨rfl, ?_⟩
  rw [← areNames, List.map_map] at noHost
  exact noHost

theorem asks_deleteBatches (batches : List (List ObjectKey)) :
    (client.deleteBatches batches).run.Asks (Exchange.IsPlain client) := by
  induction batches with
  | nil => trivial
  | cons batch batches induction =>
      refine (client.asks_named ["content-type", "x-amz-checksum-crc32",
        "x-amz-sdk-checksum-algorithm"] rfl (by decide)).bind fun response => ?_
      exact (Asks.liftExcept _).bind fun missing => induction.bind fun others => trivial

theorem asks_startParts (key : String) :
    (client.startParts key).run.Asks (Exchange.IsPlain client) := by
  refine (client.asks_named [] rfl (by decide)).bind fun response => ?_
  split <;> trivial

theorem asks_sendPart (key uploadId : String) (number : Nat) (part : ByteArray) :
    (client.sendPart key uploadId number part).run.Asks (Exchange.IsPlain client) := by
  refine (client.asks_named [] rfl (by decide)).bind fun response => ?_
  split <;> trivial

theorem asks_flushPart (upload : Upload) (part : ByteArray) :
    (client.flushPart upload part).Asks (Exchange.IsPlain client) := by
  have sends (sent : SentParts) : (client.sendPart upload.key.text sent.uploadId
      (sent.parts.length + 1) part).run.Asks (Exchange.IsPlain client) :=
    client.asks_sendPart _ _ _ _
  rw [flushPart]
  cases upload.sent with
  | some sent =>
      refine (sends sent).andThen fun result => ?_
      cases result <;> trivial
  | none =>
      refine (client.asks_startParts _).andThen fun begun => ?_
      cases begun with
      | error error => trivial
      | ok uploadId =>
          refine (sends ⟨uploadId, []⟩).andThen fun result => ?_
          cases result <;> trivial

theorem asks_flushParts (left : Nat) (upload : Upload) :
    (client.flushParts upload left).Asks (Exchange.IsPlain client) := by
  induction left generalizing upload with
  | zero => trivial
  | succ left induction =>
      refine (client.asks_flushPart _ _).andThen fun flushed => ?_
      rcases flushed with ⟨error | ⟨⟩, after⟩
      · trivial
      · exact induction after

theorem asks_complete (key : String) (sent : SentParts) :
    (client.complete key sent).run.Asks (Exchange.IsPlain client) := by
  refine (client.asks_named ["content-type"] rfl (by decide)).bind fun response => ?_
  split <;> trivial

theorem asks_finish (upload : Upload) :
    (client.finish upload).run.Asks (Exchange.IsPlain client) := by
  rw [finish]
  cases upload.sent with
  | none => exact (client.asks_named [] rfl (by decide)).bind fun _ => trivial
  | some sent =>
      dsimp only
      split
      · exact client.asks_complete _ _
      · refine (Asks.lift (client.asks_flushPart _ _)).bind fun flushed => ?_
        rcases flushed with ⟨error | ⟨⟩, after⟩
        · trivial
        · exact client.asks_complete _ _

/-- No command that answers a call names a host. -/
theorem asks_respond (call : Call) : (client.respond call).Asks (Exchange.IsPlain client) := by
  cases call with
  | head key => exact (client.asks_named [] rfl (by decide)).bind fun _ => trivial
  | openRead key => exact (client.asks_named [] rfl (by decide)).bind fun _ => trivial
  | openWrite key => trivial
  | putMarker key =>
      exact (client.asks_named ["content-type", markerHeader] rfl (by decide)).bind fun _ => trivial
  | deleteMany keys =>
      refine (client.asks_deleteBatches _).bind fun missing => ?_
      split <;> trivial
  | listPage lead delimiter token =>
      exact (client.asks_named [] rfl (by decide)).bind fun _ => trivial
  | write upload chunk => exact client.asks_flushParts _ _
  | finish upload => exact client.asks_finish upload
  | abort upload =>
      change (client.abort upload).Asks _
      rw [abort]
      cases upload.sent with
      | none => trivial
      | some sent =>
          exact (client.asks_named [] rfl (by decide)).andThen fun _ => trivial

/-- Every request goes to the authority that it was signed for. Unless the bucket has a sign that
ends a path, it asks for the path and the query that were signed, but with the path of the endpoint in
front; so what is asked for is what was signed exactly if the endpoint has no path but slashes, and
the bucket no such sign. The client itself never names a host in the headers of a command. -/
theorem request_goes_where_signed_iff {client : Client} {endpoint : Endpoint}
    (isPlace : client.place = endpoint.text) :
    (∀ (stamp : Timestamp) (command : Command), command.LeavesHost → ∃ sent signed,
      Target.ofUrl? (client.request stamp command).url = some sent ∧
      client.signedTarget? stamp command = some signed ∧
      ("authorization", Signature.authorization client.credentials stamp command.method.name
        signed.path signed.query (client.signedHeaders stamp command)
        (Sha256.hexDigest command.body)) ∈ (client.request stamp command).headers ∧
      sent.authority = signed.authority ∧
      ('?' ∉ client.bucket.toList ∧ '#' ∉ client.bucket.toList →
        sent.path = String.ofList endpoint.front ++ signed.path ∧ sent.query = signed.query) ∧
      (sent = signed ↔ endpoint.front = [] ∧
        '?' ∉ client.bucket.toList ∧ '#' ∉ client.bucket.toList)) ∧
    ∀ call, (client.respond call).Asks (Exchange.IsPlain client) := by
  refine ⟨?requests, client.asks_respond⟩
  intro stamp command leavesHost
  have isSigned : client.signedTarget? stamp command =
      some ⟨endpoint.authority, client.path command.key, canonicalQuery command.query⟩ := by
    rw [signedTarget?, host_signedHeaders isPlace leavesHost, Option.map_some]
  refine ⟨_, _, ofUrl?_url isPlace command, isSigned, List.mem_cons_self, rfl, ?plain, ?exactly⟩
  case plain =>
    intro plain
    rcases behindAuthority_of_plain endpoint command plain with ⟨isPath, isQuery⟩
    simp only [isPath, isQuery, String.ofList_append, String.ofList_toList, and_self]
  case exactly =>
    constructor
    · intro same
      have samePath : (client.behindAuthority endpoint command).takeWhile goesOnPath =
          (client.path command.key).toList := by
        have paths := congrArg (fun target => target.path.toList) same
        rwa [String.toList_ofList] at paths
      have plain := goesOnPath_path.mp fun character member =>
        List.mem_takeWhile_imp (samePath ▸ member)
      rw [(behindAuthority_of_plain endpoint command plain).1, List.append_left_eq_self] at samePath
      exact ⟨samePath, plain⟩
    · rintro ⟨noFront, plain⟩
      rcases behindAuthority_of_plain endpoint command plain with ⟨isPath, isQuery⟩
      simp only [isPath, isQuery, noFront, List.nil_append, String.ofList_toList]

/-! A gateway with a path, and a store with slashes behind its name. -/

private def gateway : Client :=
  ⟨"bucket", "us-east-1", some "http://gateway/store", "AK", "SK", none⟩

private def noon : Timestamp := ⟨"20260101", "20260101T120000Z"⟩

/-- The path of a gateway is asked for and not signed. -/
theorem gateway_path_not_signed :
    Target.ofUrl? (gateway.request noon (plain .get "k")).url =
        some ⟨"gateway", "/store/bucket/k", ""⟩ ∧
      gateway.signedTarget? noon (plain .get "k") = some ⟨"gateway", "/bucket/k", ""⟩ := by
  decide +kernel

private def harbor : Client :=
  ⟨"bucket", "us-east-1", some "https://harbor:9000//", "AK", "SK", none⟩

private def harborEndpoint : Endpoint where
  isSecure := true
  authority := "harbor:9000"
  path := "//"
  filled := by decide
  plainAuthority := by decide
  rooted := by decide
  plainPath := by decide

theorem request_goes_where_signed_harbor :
    harbor.place = harborEndpoint.text ∧ (deletionCommand [⟨"k"⟩]).LeavesHost ∧
      Target.ofUrl? (harbor.request noon (deletionCommand [⟨"k"⟩])).url =
        some ⟨"harbor:9000", "/bucket", "delete="⟩ ∧
      harbor.signedTarget? noon (deletionCommand [⟨"k"⟩]) =
        Target.ofUrl? (harbor.request noon (deletionCommand [⟨"k"⟩])).url := by
  have isPlace : harbor.place = harborEndpoint.text := by decide
  have leavesHost : (deletionCommand [⟨"k"⟩]).LeavesHost := by decide
  rcases (request_goes_where_signed_iff isPlace).1 noon _ leavesHost with
    ⟨sent, signed, isSent, isSigned, -, -, -, same⟩
  refine ⟨isPlace, leavesHost, by decide +kernel, ?_⟩
  rw [isSent, isSigned, same.mpr (by decide)]

end Client

end S3

end Depot
