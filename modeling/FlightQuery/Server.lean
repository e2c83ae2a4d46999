import FlightQuery.Url

/-! Servers: what is sent to them, and what comes back. -/

namespace FlightQuery

/-- A request. -/
structure Request where
  method : String
  url : Url
  /-- The token that a request is made with. A login is made without one. -/
  authorization : Option String := none
  /-- The kind of the body, if there is one. -/
  contentType : Option String := none
  body : String := ""
  deriving DecidableEq, Repr

/-- The name that every request gives for the program that sends it. -/
def Request.userAgent : String := "ems-api-sdk Rust v0.3.0"

/-- A reply that sending a request comes to. Redirections have been followed by then. -/
structure Reply where
  status : Nat
  /-- The values of the headers by their names. -/
  headers : List (String × String) := []
  body : String
  deriving DecidableEq, Repr

/-- What a server does with a request. -/
structure Event where
  /-- The reply, unless the connection is closed without one. -/
  reply : Option Reply
  /-- How many milliseconds pass until then. -/
  delay : Nat := 0
  deriving DecidableEq, Repr

/-- A server by what it does with the requests to come. After that it cannot be reached. -/
abbrev Server := List Event

/-- A server that cannot be reached. -/
def Server.unreachable : Server := []

/-- A request that has reached a server, and the reply to it, if there is one. -/
structure Exchange where
  request : Request
  reply : Option Reply
  /-- When it was over, in milliseconds. -/
  time : Int
  deriving DecidableEq, Repr

namespace Request

/-- Whether a header can hold a character. -/
def isHeaderChar (c : Char) : Bool := c == '\t' || (' ' ≤ c && c != '\x7f')

/-- Whether a request can be sent: it goes over the web, and its header is legal. -/
def isSendable (request : Request) : Bool :=
  (["http".toList, "https".toList].contains request.url.scheme) &&
    (request.authorization.getD "").toList.all isHeaderChar

end Request

/-! ### Statuses -/

/-- The reasons that statuses are told with. -/
def statusReasons : List (Nat × String) := [
  (100, "Continue"), (101, "Switching Protocols"), (102, "Processing"), (200, "OK"),
  (201, "Created"), (202, "Accepted"), (203, "Non Authoritative Information"),
  (204, "No Content"), (205, "Reset Content"), (206, "Partial Content"), (207, "Multi-Status"),
  (208, "Already Reported"), (226, "IM Used"), (300, "Multiple Choices"),
  (301, "Moved Permanently"), (302, "Found"), (303, "See Other"), (304, "Not Modified"),
  (305, "Use Proxy"), (307, "Temporary Redirect"), (308, "Permanent Redirect"),
  (400, "Bad Request"), (401, "Unauthorized"), (402, "Payment Required"), (403, "Forbidden"),
  (404, "Not Found"), (405, "Method Not Allowed"), (406, "Not Acceptable"),
  (407, "Proxy Authentication Required"), (408, "Request Timeout"), (409, "Conflict"),
  (410, "Gone"), (411, "Length Required"), (412, "Precondition Failed"),
  (413, "Payload Too Large"), (414, "URI Too Long"), (415, "Unsupported Media Type"),
  (416, "Range Not Satisfiable"), (417, "Expectation Failed"), (418, "I'm a teapot"),
  (421, "Misdirected Request"), (422, "Unprocessable Entity"), (423, "Locked"),
  (424, "Failed Dependency"), (425, "Too Early"), (426, "Upgrade Required"),
  (428, "Precondition Required"), (429, "Too Many Requests"),
  (431, "Request Header Fields Too Large"), (451, "Unavailable For Legal Reasons"),
  (500, "Internal Server Error"), (501, "Not Implemented"), (502, "Bad Gateway"),
  (503, "Service Unavailable"), (504, "Gateway Timeout"), (505, "HTTP Version Not Supported"),
  (506, "Variant Also Negotiates"), (507, "Insufficient Storage"), (508, "Loop Detected"),
  (510, "Not Extended"), (511, "Network Authentication Required")]

/-- A status with its reason. -/
def statusText (status : Nat) : String :=
  status.repr ++ " " ++ (statusReasons.lookup status).getD "<unknown status code>"

/-- Whether a status is a success. -/
def isSuccess (status : Nat) : Bool := 200 ≤ status && status < 300

/-- Whether a status is the fault of one of the sides. -/
def isFailure (status : Nat) : Bool := 400 ≤ status && status < 600

/-- The status of a reply that rejects the credentials of a request. -/
def unauthorized : Nat := 401

/-- The status of a reply that rejects the form of a request. -/
def badRequest : Nat := 400

end FlightQuery
