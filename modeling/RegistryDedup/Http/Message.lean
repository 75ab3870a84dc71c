import RegistryDedup.Program
import RegistryDedup.Url.Encode

/-!
# Requests and responses over HTTP

- `HttpRequest`, `HttpResponse`: what is sent and what comes back.
- `Exchange`: the interface of a program that sends requests.
- `phraseOf`: the phrase that goes with a status.
-/

namespace RegistryDedup

/-- What a request asks for. -/
inductive Method where
  | get
  | head
  | post
  | patch
  | delete
  deriving DecidableEq

/-- A method as it is sent. -/
def Method.name : Method → String
  | get => "GET"
  | head => "HEAD"
  | post => "POST"
  | patch => "PATCH"
  | delete => "DELETE"

/-- A request. Names of headers are in lower case. -/
structure HttpRequest where
  method : Method
  url : String
  headers : List (String × String)
  body : Option String
  deriving DecidableEq

/-- A response. The body is missing where the connection ended before all of it was there. -/
structure HttpResponse where
  status : Nat
  /-- The header that tells which rows these are, and of how many. -/
  range : Option String
  body : Option String
  deriving DecidableEq

/-- Why a request had no response. -/
inductive HttpFault where
  /-- The request is malformed and was not sent. -/
  | unsendable (detail : String)
  /-- No response came. -/
  | unanswered
  deriving DecidableEq

/-- The interface of a program that sends requests. -/
def Exchange : Interface where
  Ask := HttpRequest
  Answer _ := Except HttpFault HttpResponse

/-- The phrases of the known statuses. -/
def phrases : List (Nat × String) :=
  [(100, "Continue"), (101, "Switching Protocols"), (102, "Processing"), (103, "Early Hints"),
   (200, "OK"), (201, "Created"), (202, "Accepted"), (203, "Non Authoritative Information"),
   (204, "No Content"), (205, "Reset Content"), (206, "Partial Content"), (207, "Multi-Status"),
   (208, "Already Reported"), (226, "IM Used"), (300, "Multiple Choices"),
   (301, "Moved Permanently"), (302, "Found"), (303, "See Other"), (304, "Not Modified"),
   (305, "Use Proxy"), (307, "Temporary Redirect"), (308, "Permanent Redirect"),
   (400, "Bad Request"), (401, "Unauthorized"), (402, "Payment Required"), (403, "Forbidden"),
   (404, "Not Found"), (405, "Method Not Allowed"), (406, "Not Acceptable"),
   (407, "Proxy Authentication Required"), (408, "Request Timeout"), (409, "Conflict"),
   (410, "Gone"), (411, "Length Required"), (412, "Precondition Failed"),
   (413, "Payload Too Large"), (414, "URI Too Long"), (415, "Unsupported Media Type"),
   (416, "Range Not Satisfiable"), (417, "Expectation Failed"), (418, "I'm a teapot"),
   (421, "Misdirected Request"), (422, "Unprocessable Entity"), (423, "Locked"),
   (424, "Failed Dependency"), (425, "Too Early"), (426, "Upgrade Required"),
   (428, "Precondition Required"), (429, "Too Many Requests"),
   (431, "Request Header Fields Too Large"), (451, "Unavailable For Legal Reasons"),
   (500, "Internal Server Error"), (501, "Not Implemented"), (502, "Bad Gateway"),
   (503, "Service Unavailable"), (504, "Gateway Timeout"), (505, "HTTP Version Not Supported"),
   (506, "Variant Also Negotiates"), (507, "Insufficient Storage"), (508, "Loop Detected"),
   (510, "Not Extended"), (511, "Network Authentication Required")]

/-- The phrase of a status. -/
def phraseOf (status : Nat) : String :=
  (phrases.lookup status).getD "<unknown status code>"

/-- Whether a status is a success. -/
def isSuccess (status : Nat) : Bool :=
  200 ≤ status && status < 300

end RegistryDedup
