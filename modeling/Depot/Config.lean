import Depot.Error
import Depot.SortedMap
import Depot.Text.Numeral

/-!
The settings of a repository. Each setting has a name with dots; its value comes from the
environment variable that belongs to the name, or else from the properties, and an empty value
counts as none.
-/

namespace Depot

abbrev Properties := SortedMap String

namespace Setting

def bucketName : String := "bucket.name"
def region : String := "region"
def endpoint : String := "endpoint"
def proxyHost : String := "proxy.host"
def proxyPort : String := "proxy.port"
def accessKey : String := "access.key"
def secretKey : String := "secret.key"
/-- Whether objects are kept in memory. -/
def mock : String := "mock"
/-- Which namespace the repository has. -/
def layout : String := "namespace"

def all : List String :=
  [bucketName, region, endpoint, proxyHost, proxyPort, accessKey, secretKey, mock, layout]

def defaultRegion : String := "us-east-1"

def environmentName (name : String) : String :=
  String.ofList (Text.replaceAll ['.'] ['_'] (Text.upper name).toList)

/-- Where credentials are looked for if there is no setting for them. -/
def fallbackAccessKey : String := "AWS_ACCESS_KEY_ID"
def fallbackSecretKey : String := "AWS_SECRET_ACCESS_KEY"

def environmentNames : List String :=
  all.map environmentName ++ [fallbackAccessKey, fallbackSecretKey]

end Setting

structure Proxy where
  host : String
  port : Nat
  deriving DecidableEq, Repr

/-- The location of a proxy; a host without a scheme is reached over plain HTTP. -/
def Proxy.url (proxy : Proxy) : String :=
  let address := proxy.host ++ ":" ++ toString proxy.port
  if Text.contains "://".toList proxy.host.toList then address else "http://" ++ address

structure Settings where
  bucketName : String
  region : String
  endpoint : Option String
  proxy : Option Proxy
  accessKey : String
  secretKey : String
  mock : Bool
  deriving DecidableEq, Repr

namespace Settings

/-- The environment's value of a setting, or else the property's; an empty value counts as none. -/
def effective (properties : Properties) (environment : String → Option String) (name : String) :
    Option String :=
  ((environment (Setting.environmentName name)).or (properties.find? name)).filter (· != "")

def readPort (text : String) : Except RepoError Nat :=
  match Numeral.readDecimal 65535 text with
  | .ok port => .ok port
  | .error fault =>
      .error (.config (s!"invalid proxy.port '{text}': " ++ fault.message))

/-- The proxy, if there is one. -/
def readProxy (value : String → Option String) : Except RepoError (Option Proxy) :=
  match value Setting.proxyHost with
  | none => .ok none
  | some host =>
      match value Setting.proxyPort with
      | none => .error (.config "proxy.port is required with proxy.host")
      | some port => (readPort port).map fun port => some { host, port }

/-- Whether settings are complete: a store in memory needs nothing, a remote one a bucket and
credentials. -/
def validate (settings : Settings) : Except RepoError Settings :=
  if settings.mock then .ok settings
  else if settings.bucketName = "" then .error (.config "bucket.name must not be empty")
  else if settings.accessKey = "" ∨ settings.secretKey = "" then
    .error (.config ("S3 credentials not found for bucket '" ++ settings.bucketName ++ "'"))
  else .ok settings

def resolve (properties : Properties) (environment : String → Option String) :
    Except RepoError Settings := do
  let value := effective properties environment
  let proxy ← readProxy value
  validate {
    bucketName := (value Setting.bucketName).getD ""
    region := (value Setting.region).getD Setting.defaultRegion
    endpoint := value Setting.endpoint
    proxy := proxy
    accessKey := ((value Setting.accessKey).or (environment Setting.fallbackAccessKey)).getD ""
    secretKey := ((value Setting.secretKey).or (environment Setting.fallbackSecretKey)).getD ""
    mock := ((value Setting.mock).map (Text.sameLetters "true")).getD false }

end Settings

end Depot
