import EdgeFleet.Bytes
import EdgeFleet.Json.Basic
import EdgeFleet.Uri.Form
import EdgeFleet.Uri.Target

/-!
# Requests and responses over HTTP
-/

namespace EdgeFleet.Cluster.Http

/-- What is done with the object at a target. -/
inductive Method where
  | get
  | post
  | patch
  | delete
  deriving Repr, DecidableEq, Inhabited

/-- The name of a method. -/
def Method.name : Method → String
  | .get => "GET"
  | .post => "POST"
  | .patch => "PATCH"
  | .delete => "DELETE"

/-- A value that is sent, and the kind of content that it is declared as. -/
structure Content where
  kind : String
  value : Json
  deriving Repr, BEq

/-- A request. -/
structure Request where
  method : Method
  target : Uri.Target
  content : Option Content
  deriving Repr, BEq

/-- The parameters in the query of a request. -/
def Request.parameters (request : Request) : Uri.Form.Parameters :=
  Uri.Form.decode (request.target.query.getD "")

/-- A response: a status number, and what ought to be a text. -/
structure Response where
  status : Nat
  body : Bytes
  deriving Repr, DecidableEq

namespace Response

/-- The usual words for a status number. -/
def reason? : Nat → Option String
  | 100 => some "Continue"
  | 101 => some "Switching Protocols"
  | 102 => some "Processing"
  | 200 => some "OK"
  | 201 => some "Created"
  | 202 => some "Accepted"
  | 203 => some "Non Authoritative Information"
  | 204 => some "No Content"
  | 205 => some "Reset Content"
  | 206 => some "Partial Content"
  | 207 => some "Multi-Status"
  | 208 => some "Already Reported"
  | 226 => some "IM Used"
  | 300 => some "Multiple Choices"
  | 301 => some "Moved Permanently"
  | 302 => some "Found"
  | 303 => some "See Other"
  | 304 => some "Not Modified"
  | 305 => some "Use Proxy"
  | 307 => some "Temporary Redirect"
  | 308 => some "Permanent Redirect"
  | 400 => some "Bad Request"
  | 401 => some "Unauthorized"
  | 402 => some "Payment Required"
  | 403 => some "Forbidden"
  | 404 => some "Not Found"
  | 405 => some "Method Not Allowed"
  | 406 => some "Not Acceptable"
  | 407 => some "Proxy Authentication Required"
  | 408 => some "Request Timeout"
  | 409 => some "Conflict"
  | 410 => some "Gone"
  | 411 => some "Length Required"
  | 412 => some "Precondition Failed"
  | 413 => some "Payload Too Large"
  | 414 => some "URI Too Long"
  | 415 => some "Unsupported Media Type"
  | 416 => some "Range Not Satisfiable"
  | 417 => some "Expectation Failed"
  | 418 => some "I'm a teapot"
  | 421 => some "Misdirected Request"
  | 422 => some "Unprocessable Entity"
  | 423 => some "Locked"
  | 424 => some "Failed Dependency"
  | 425 => some "Too Early"
  | 426 => some "Upgrade Required"
  | 428 => some "Precondition Required"
  | 429 => some "Too Many Requests"
  | 431 => some "Request Header Fields Too Large"
  | 451 => some "Unavailable For Legal Reasons"
  | 500 => some "Internal Server Error"
  | 501 => some "Not Implemented"
  | 502 => some "Bad Gateway"
  | 503 => some "Service Unavailable"
  | 504 => some "Gateway Timeout"
  | 505 => some "HTTP Version Not Supported"
  | 506 => some "Variant Also Negotiates"
  | 507 => some "Insufficient Storage"
  | 508 => some "Loop Detected"
  | 510 => some "Not Extended"
  | 511 => some "Network Authentication Required"
  | _ => none

/-- The status line of a response: the number and its usual words. -/
def statusLine (response : Response) : String :=
  s!"{response.status} " ++ (reason? response.status).getD "<unknown status code>"

/-- Whether the status says that the request failed. -/
def isFailure (response : Response) : Bool :=
  400 ≤ response.status && response.status < 600

end Response

end EdgeFleet.Cluster.Http
