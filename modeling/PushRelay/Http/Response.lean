import PushRelay.Http.ContentType
import PushRelay.Http.Request
import PushRelay.Json.Reader

/-!
# Responses

What a server answers to a request: a status, possibly with a reason of its
own, and a body, which may come with a declaration of what it is.
-/

namespace PushRelay.Http

/-- A response. -/
structure Response where
  status : Int
  reason : Option String := none
  contentType : Option String := none
  body : List UInt8 := []
  deriving Repr

/-- Why a body has no text. -/
inductive TextError where
  | contentType (e : ContentTypeError)
  | charset (e : Octets.CharsetError)
  deriving DecidableEq, Repr

namespace TextError

/-- What the error is called. -/
def className : TextError → String
  | .contentType e => e.className
  | .charset e => e.className

/-- What the error says. -/
def message : TextError → String
  | .contentType e => e.message
  | .charset e => e.message

end TextError

/-- The reasons that statuses have. -/
def standardReasons : List (Int × String) := [
  (100, "Continue"), (101, "Switching Protocols"), (102, "Processing"), (103, "Early Hints"),
  (200, "OK"), (201, "Created"), (202, "Accepted"), (203, "Non-Authoritative Information"),
  (204, "No Content"), (205, "Reset Content"), (206, "Partial Content"), (207, "Multi-Status"),
  (208, "Already Reported"), (226, "IM Used"), (300, "Multiple Choices"), (301, "Moved Permanently"),
  (302, "Found"), (303, "See Other"), (304, "Not Modified"), (305, "Use Proxy"),
  (307, "Temporary Redirect"), (308, "Permanent Redirect"), (400, "Bad Request"),
  (401, "Unauthorized"), (402, "Payment Required"), (403, "Forbidden"), (404, "Not Found"),
  (405, "Method Not Allowed"), (406, "Not Acceptable"), (407, "Proxy Authentication Required"),
  (408, "Request Timeout"), (409, "Conflict"), (410, "Gone"), (411, "Length Required"),
  (412, "Precondition Failed"), (413, "Request Entity Too Large"), (414, "Request-URI Too Long"),
  (415, "Unsupported Media Type"), (416, "Requested Range Not Satisfiable"),
  (417, "Expectation Failed"), (418, "I'm a teapot"), (421, "Misdirected Request"),
  (422, "Unprocessable Entity"), (423, "Locked"), (424, "Failed Dependency"), (425, "Too Early"),
  (426, "Upgrade Required"), (428, "Precondition Required"), (429, "Too Many Requests"),
  (431, "Request Header Fields Too Large"), (451, "Unavailable For Legal Reasons"),
  (500, "Internal Server Error"), (501, "Not Implemented"), (502, "Bad Gateway"),
  (503, "Service Unavailable"), (504, "Gateway Timeout"), (505, "HTTP Version Not Supported"),
  (506, "Variant Also Negotiates"), (507, "Insufficient Storage"), (508, "Loop Detected"),
  (510, "Not Extended"), (511, "Network Authentication Required")]

namespace Response

/-- The reason: that of the server as far as it is ASCII, or else the one that
the status has. -/
def reasonText (r : Response) : String :=
  match r.reason with
  | some reason => String.ofList (reason.toList.filter Text.isAscii)
  | none => (standardReasons.lookup r.status).getD ""

/-- The character set of the body: the declared one if it is known, or else
UTF-8. -/
def charset (r : Response) : Except ContentTypeError Octets.Charset :=
  match r.contentType with
  | none => .ok (.plain .utf8)
  | some contentType => return (← charset? contentType.toList).getD (.plain .utf8)

/-- The body as a text. -/
def text (r : Response) : Except TextError String :=
  if r.body.isEmpty then .ok ""
  else
    match r.charset with
    | .error e => .error (.contentType e)
    | .ok charset =>
      match charset.decode r.body with
      | .error e => .error (.charset e)
      | .ok text => .ok text

/-- The body as a value. -/
def data (r : Response) : Except Json.ReadError Value := Json.readOctets r.body

end Response
end PushRelay.Http
