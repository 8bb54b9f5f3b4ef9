import Depot.Checksum.Sha256
import Depot.SortedMap
import Depot.Text

/-!
The signature of a request, AWS Signature Version 4. The signed text names the method, the path,
the query, the signed headers and the digest of the body.
-/

namespace Depot.S3

/-- Who signs, and for which region. -/
structure Credentials where
  accessKey : String
  secretKey : String
  region : String
  deriving DecidableEq, Repr

/-- The moment of a request, as it is signed: the day, and the day with the time. -/
structure Timestamp where
  date : String
  dateTime : String
  deriving DecidableEq, Repr

namespace Signature

def algorithm : String := "AWS4-HMAC-SHA256"

def signingKey (secret date region : String) : ByteArray :=
  let ofDate := Sha256.authenticate ("AWS4" ++ secret).toUTF8 date.toUTF8
  let ofRegion := Sha256.authenticate ofDate region.toUTF8
  let ofService := Sha256.authenticate ofRegion "s3".toUTF8
  Sha256.authenticate ofService "aws4_request".toUTF8

/-- What a signature is valid for. -/
def scope (date region : String) : String := date ++ "/" ++ region ++ "/s3/aws4_request"

def signedHeaders (headers : SortedMap String) : String := Text.joinStrings ";" headers.keys

def canonicalRequest (method path query : String) (headers : SortedMap String)
    (bodyHash : String) : String :=
  let lines := headers.entries.map fun (name, value) =>
    name ++ ":" ++ Text.trimBlanks value ++ "\n"
  Text.joinStrings "\n" [method, path, query, String.join lines, signedHeaders headers, bodyHash]

def authorization (credentials : Credentials) (stamp : Timestamp) (method path query : String)
    (headers : SortedMap String) (bodyHash : String) : String :=
  let requestHash := Sha256.hexDigest (canonicalRequest method path query headers bodyHash).toUTF8
  let scope := scope stamp.date credentials.region
  let signed := Text.joinStrings "\n" [algorithm, stamp.dateTime, scope, requestHash]
  let key := signingKey credentials.secretKey stamp.date credentials.region
  let signature := Numeral.hex (Sha256.authenticate key signed.toUTF8)
  algorithm ++ " Credential=" ++ credentials.accessKey ++ "/" ++ scope ++ ",SignedHeaders=" ++
    signedHeaders headers ++ ",Signature=" ++ signature

end Signature

end Depot.S3
