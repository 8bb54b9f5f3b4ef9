import Depot.Text
import Depot.Text.Utf8

/-!
Requests and responses of HTTP, as far as a client of an object store looks at them.
-/

namespace Depot.Http

inductive Method where
  | get
  | head
  | put
  | post
  | delete
  deriving DecidableEq, Repr

def Method.name : Method → String
  | .get => "GET"
  | .head => "HEAD"
  | .put => "PUT"
  | .post => "POST"
  | .delete => "DELETE"

structure Request where
  method : Method
  url : String
  headers : List (String × String)
  body : ByteArray

/-- Whether a text can be sent as the value of a header: a tab is the only control in it. -/
def isSendable (value : String) : Bool :=
  value.toList.all fun character =>
    character == '\t' || (32 ≤ character.toNat && character.toNat != 127)

structure Response where
  status : Nat
  headers : List (String × String)
  body : ByteArray

def phrase? : Nat → Option String
  | 100 => some "Continue"
  | 101 => some "Switching Protocols"
  | 102 => some "Processing"
  | 200 => some "OK"
  | 201 => some "Created"
  | 202 => some "Accepted"
  | 203 => some "Non Authoritative Information"
  | 204 => some "No Content"
  | 205 => some "Reset Content"
  | 206 => some "Partial Content"
  | 207 => some "Multi-Status"
  | 208 => some "Already Reported"
  | 226 => some "IM Used"
  | 300 => some "Multiple Choices"
  | 301 => some "Moved Permanently"
  | 302 => some "Found"
  | 303 => some "See Other"
  | 304 => some "Not Modified"
  | 305 => some "Use Proxy"
  | 307 => some "Temporary Redirect"
  | 308 => some "Permanent Redirect"
  | 400 => some "Bad Request"
  | 401 => some "Unauthorized"
  | 402 => some "Payment Required"
  | 403 => some "Forbidden"
  | 404 => some "Not Found"
  | 405 => some "Method Not Allowed"
  | 406 => some "Not Acceptable"
  | 407 => some "Proxy Authentication Required"
  | 408 => some "Request Timeout"
  | 409 => some "Conflict"
  | 410 => some "Gone"
  | 411 => some "Length Required"
  | 412 => some "Precondition Failed"
  | 413 => some "Payload Too Large"
  | 414 => some "URI Too Long"
  | 415 => some "Unsupported Media Type"
  | 416 => some "Range Not Satisfiable"
  | 417 => some "Expectation Failed"
  | 418 => some "I'm a teapot"
  | 421 => some "Misdirected Request"
  | 422 => some "Unprocessable Entity"
  | 423 => some "Locked"
  | 424 => some "Failed Dependency"
  | 425 => some "Too Early"
  | 426 => some "Upgrade Required"
  | 428 => some "Precondition Required"
  | 429 => some "Too Many Requests"
  | 431 => some "Request Header Fields Too Large"
  | 451 => some "Unavailable For Legal Reasons"
  | 500 => some "Internal Server Error"
  | 501 => some "Not Implemented"
  | 502 => some "Bad Gateway"
  | 503 => some "Service Unavailable"
  | 504 => some "Gateway Timeout"
  | 505 => some "HTTP Version Not Supported"
  | 506 => some "Variant Also Negotiates"
  | 507 => some "Insufficient Storage"
  | 508 => some "Loop Detected"
  | 510 => some "Not Extended"
  | 511 => some "Network Authentication Required"
  | _ => none

namespace Response

def isSuccess (response : Response) : Bool := 200 ≤ response.status && response.status < 300

def statusText (response : Response) : String :=
  toString response.status ++ " " ++ (phrase? response.status).getD "<unknown status code>"

/-- Whether a header value can be read: it holds only tabs and printable ASCII characters. -/
def isReadable (value : String) : Bool :=
  value.toList.all fun character =>
    character == '\t' || (32 ≤ character.toNat && character.toNat < 127)

/-- The value of a header, if it is there and can be read. Case does not count in names. -/
def header? (response : Response) (name : String) : Option String :=
  ((response.headers.find? fun header => Text.sameLetters header.1 name).map Prod.snd).filter
    isReadable

def text (response : Response) : String := Utf8.decode response.body

end Response

end Depot.Http
