import ScalpBot.Exchange.Failure
import ScalpBot.Web.Address

/-!
# HTTP

Requests, and what comes of them: a response, or a failure to get one. A failure has a text and the
causes behind it, each with a text of its own; how it counts as a failure of the exchange depends on its
kind.
-/

namespace ScalpBot

/-- What is sent. -/
structure HttpRequest where
  method : String
  address : WebAddress
  /-- Names in lower case, with their values. -/
  headers : List (String × String)
  body : String
deriving DecidableEq

/-- What part of an exchange failed. -/
inductive TransportPart where
  /-- No answer came within the time that is allowed. -/
  | timeout
  /-- The request could not be sent. -/
  | request
  /-- The body of the answer broke off. -/
  | body
  /-- The body of the answer is not what it should be. -/
  | decoding
  /-- The answer has the status of an error. -/
  | status (code : Nat)
  /-- Anything else: the request could not be built, or was sent on too often. -/
  | other
deriving DecidableEq, Repr

/-- Why there is no response, or none that can be read. -/
structure TransportFailure where
  part : TransportPart
  text : String
  /-- The texts of the causes, the nearest first. -/
  causes : List String
deriving DecidableEq, Repr

namespace TransportFailure

/-- The failure of the exchange that it amounts to. -/
def classify (f : TransportFailure) : Failure :=
  match f.part with
  | .timeout => .timeout f.text
  | .request | .body => .network f.text
  | .decoding => .invalidResponse f.text
  | .status code => .httpStatus code f.text
  | .other => .internal f.text

/-- The text with all causes. -/
def detail (f : TransportFailure) : String := ": ".intercalate (f.text :: f.causes)

/-- The failure to build a request. -/
def building (about cause : String) : TransportFailure :=
  ⟨.other, "builder error" ++ about ++ ": " ++ cause, [cause]⟩

/-- The failure to send a request to an address, from its causes. -/
def sending (part : TransportPart) (address cause : String) (deeper : List String) :
    TransportFailure :=
  ⟨part, "error sending request for url (" ++ address ++ "): " ++ cause, cause :: deeper⟩

/-- The failure to get a connection to an address. -/
def connecting (address reason : String) : TransportFailure :=
  let attempt := "tcp connect error: " ++ reason
  sending .request address ("error trying to connect: " ++ attempt) [attempt, reason]

/-- No way leads to the address. -/
def unreachable (address : String) : TransportFailure :=
  connecting address "Network is unreachable (os error 101)"

/-- Nobody listens at the address. -/
def refused (address : String) : TransportFailure :=
  connecting address "Connection refused (os error 111)"

/-- The connection ended before any answer. -/
def closed (address : String) : TransportFailure :=
  sending .request address "connection closed before message completed" []

/-- No answer came in time. -/
def timedOut (address : String) : TransportFailure :=
  sending .timeout address "operation timed out" []

/-- The body of the answer broke off. -/
def truncated : TransportFailure :=
  let reason := "end of file before message length reached"
  let reading := "error reading a body from connection: " ++ reason
  ⟨.body, "request or response body error: " ++ reading, [reading, reason]⟩

/-- The server sent the request on and on. -/
def redirectedTooOften (address : String) : TransportFailure :=
  let reason := "too many redirects"
  ⟨.other, "error following redirect for url (" ++ address ++ "): " ++ reason, [reason]⟩

end TransportFailure

/-- What came back. -/
structure HttpResponse where
  status : Nat
  /-- Names in lower case, with their values. -/
  headers : List (String × String)
  /-- The body as text, unless reading it failed. -/
  body : Except TransportFailure String

/-- What comes of a request. -/
abbrev HttpReply := Except TransportFailure HttpResponse

namespace HttpResponse

/-- The first value of a header. -/
def header? (r : HttpResponse) (name : String) : Option String := r.headers.lookup name

/-- Whether the status says that all went well. -/
def isSuccess (r : HttpResponse) : Bool := 200 ≤ r.status && r.status < 300

end HttpResponse

/-- Whether `part` occurs in a row of characters. -/
def occursIn (part : List Char) : List Char → Bool
  | [] => part.isEmpty
  | c :: rest => part.isPrefixOf (c :: rest) || occursIn part rest

/-- The phrases of the statuses. -/
def statusPhrases : List (Nat × String) :=
  [(100, "Continue"), (101, "Switching Protocols"), (102, "Processing"), (200, "OK"),
   (201, "Created"), (202, "Accepted"), (203, "Non Authoritative Information"),
   (204, "No Content"), (205, "Reset Content"), (206, "Partial Content"), (207, "Multi-Status"),
   (208, "Already Reported"), (226, "IM Used"), (300, "Multiple Choices"),
   (301, "Moved Permanently"), (302, "Found"), (303, "See Other"), (304, "Not Modified"),
   (305, "Use Proxy"), (307, "Temporary Redirect"), (308, "Permanent Redirect"),
   (400, "Bad Request"), (401, "Unauthorized"), (402, "Payment Required"), (403, "Forbidden"),
   (404, "Not Found"), (405, "Method Not Allowed"), (406, "Not Acceptable"),
   (407, "Proxy Authentication Required"), (408, "Request Timeout"), (409, "Conflict"),
   (410, "Gone"), (411, "Length Required"), (412, "Precondition Failed"),
   (413, "Payload Too Large"), (414, "URI Too Long"), (415, "Unsupported Media Type"),
   (416, "Range Not Satisfiable"), (417, "Expectation Failed"), (418, "I'm a teapot"),
   (421, "Misdirected Request"), (422, "Unprocessable Entity"), (423, "Locked"),
   (424, "Failed Dependency"), (426, "Upgrade Required"), (428, "Precondition Required"),
   (429, "Too Many Requests"), (431, "Request Header Fields Too Large"),
   (451, "Unavailable For Legal Reasons"), (500, "Internal Server Error"),
   (501, "Not Implemented"), (502, "Bad Gateway"), (503, "Service Unavailable"),
   (504, "Gateway Timeout"), (505, "HTTP Version Not Supported"),
   (506, "Variant Also Negotiates"), (507, "Insufficient Storage"), (508, "Loop Detected"),
   (510, "Not Extended"), (511, "Network Authentication Required")]

/-- A status and its phrase. -/
def statusText (status : Nat) : String :=
  toString status ++ " " ++ (statusPhrases.lookup status).getD "<unknown status code>"

/-- Whether a text can be the value of a header: it has no controls but the tab. -/
def isHeaderValue (text : String) : Bool :=
  text.toList.all fun c => c = '\t' || (0x20 ≤ c.toNat && c.toNat ≠ 0x7F)

namespace HttpRequest

/-- Builds a request, unless its address or a header is refused. -/
def build (method address : String) (headers : List (String × String)) (body : String) :
    Except TransportFailure HttpRequest :=
  match WebAddress.parse address with
  | .error cause => .error (.building "" cause.message)
  | .ok a =>
    if !headers.all fun h => isHeaderValue h.2 then
      .error (.building "" "failed to parse header value")
    else if a.scheme ≠ "http" && a.scheme ≠ "https" then
      .error (.building (" for url (" ++ a.toText ++ ")") "URL scheme is not allowed")
    else .ok ⟨method, a, headers, body⟩

end HttpRequest

end ScalpBot
