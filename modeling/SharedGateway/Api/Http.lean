/-
HTTP as far as the API server is spoken to: requests with a JSON body, and
responses as a status and a text.
-/
import SharedGateway.Json.Basic

namespace SharedGateway.Api

/-- The methods in use. -/
inductive HttpMethod where
  | get
  | post
  | patch
  | delete
  deriving DecidableEq, Repr

/-- The method's name. -/
def HttpMethod.toText : HttpMethod → String
  | .get => "GET"
  | .post => "POST"
  | .patch => "PATCH"
  | .delete => "DELETE"

/-- A request. -/
structure HttpRequest where
  method : HttpMethod
  target : String
  contentType : Option String := none
  accept : Option String := none
  body : Option Json := none
  deriving DecidableEq

/-- A response. -/
structure HttpResponse where
  status : Nat
  body : String
  deriving DecidableEq, Repr

/-- Does the status tell of an error, on either side? -/
def HttpResponse.isError (r : HttpResponse) : Bool :=
  400 ≤ r.status && r.status < 600

/-- The reason phrases of the error statuses that are registered. -/
def reasonPhrases : List (Nat × String) := [
  (400, "Bad Request"),
  (401, "Unauthorized"),
  (402, "Payment Required"),
  (403, "Forbidden"),
  (404, "Not Found"),
  (405, "Method Not Allowed"),
  (406, "Not Acceptable"),
  (407, "Proxy Authentication Required"),
  (408, "Request Timeout"),
  (409, "Conflict"),
  (410, "Gone"),
  (411, "Length Required"),
  (412, "Precondition Failed"),
  (413, "Payload Too Large"),
  (414, "URI Too Long"),
  (415, "Unsupported Media Type"),
  (416, "Range Not Satisfiable"),
  (417, "Expectation Failed"),
  (418, "I'm a teapot"),
  (421, "Misdirected Request"),
  (422, "Unprocessable Entity"),
  (423, "Locked"),
  (424, "Failed Dependency"),
  (425, "Too Early"),
  (426, "Upgrade Required"),
  (428, "Precondition Required"),
  (429, "Too Many Requests"),
  (431, "Request Header Fields Too Large"),
  (451, "Unavailable For Legal Reasons"),
  (500, "Internal Server Error"),
  (501, "Not Implemented"),
  (502, "Bad Gateway"),
  (503, "Service Unavailable"),
  (504, "Gateway Timeout"),
  (505, "HTTP Version Not Supported"),
  (506, "Variant Also Negotiates"),
  (507, "Insufficient Storage"),
  (508, "Loop Detected"),
  (510, "Not Extended"),
  (511, "Network Authentication Required")]

/-- The status as a line: its number and its reason phrase. -/
def statusLine (status : Nat) : String :=
  toString status ++ " " ++ (reasonPhrases.lookup status).getD "<unknown status code>"

end SharedGateway.Api
