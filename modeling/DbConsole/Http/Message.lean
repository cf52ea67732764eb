import DbConsole.Http.Endpoint
import DbConsole.Text.Base64
import DbConsole.Wire.Basic

/-!
Requests to the backend, the replies to them with the numbers that these have, and what a reply means.
-/
set_option autoImplicit false

namespace DbConsole

structure Status where
  code : Nat
  deriving DecidableEq

namespace Status

def phrases : List (Nat × String) :=
  [(100, "Continue"), (101, "Switching Protocols"), (102, "Processing"), (103, "Early Hints"),
   (200, "OK"), (201, "Created"), (202, "Accepted"), (203, "Non Authoritative Information"),
   (204, "No Content"), (205, "Reset Content"), (206, "Partial Content"), (207, "Multi-Status"),
   (208, "Already Reported"), (226, "IM Used"), (300, "Multiple Choices"),
   (301, "Moved Permanently"), (302, "Found"), (303, "See Other"), (304, "Not Modified"),
   (305, "Use Proxy"), (307, "Temporary Redirect"), (308, "Permanent Redirect"),
   (400, "Bad Request"), (401, "Unauthorized"), (402, "Payment Required"), (403, "Forbidden"),
   (404, "Not Found"), (405, "Method Not Allowed"), (406, "Not Acceptable"),
   (407, "Proxy Authentication Required"), (408, "Request Timeout"), (409, "Conflict"),
   (410, "Gone"), (411, "Length Required"), (412, "Precondition Failed"),
   (413, "Payload Too Large"), (414, "URI Too Long"), (415, "Unsupported Media Type"),
   (416, "Range Not Satisfiable"), (417, "Expectation Failed"), (418, "I'm a teapot"),
   (421, "Misdirected Request"), (422, "Unprocessable Entity"), (423, "Locked"),
   (424, "Failed Dependency"), (425, "Too Early"), (426, "Upgrade Required"),
   (428, "Precondition Required"), (429, "Too Many Requests"),
   (431, "Request Header Fields Too Large"), (451, "Unavailable For Legal Reasons"),
   (500, "Internal Server Error"), (501, "Not Implemented"), (502, "Bad Gateway"),
   (503, "Service Unavailable"), (504, "Gateway Timeout"), (505, "HTTP Version Not Supported"),
   (506, "Variant Also Negotiates"), (507, "Insufficient Storage"), (508, "Loop Detected"),
   (510, "Not Extended"), (511, "Network Authentication Required")]

def isSuccess (s : Status) : Bool :=
  200 ≤ s.code && s.code < 300

def text (s : Status) : String :=
  toString s.code ++ " " ++
    ((phrases.find? (·.1 == s.code)).map (·.2)).getD "<unknown status code>"

end Status

inductive Method where
  | get
  | post
  | put
  | delete
  | other (name : String)
  deriving DecidableEq

namespace Method

def name : Method → String
  | .get => "GET"
  | .post => "POST"
  | .put => "PUT"
  | .delete => "DELETE"
  | .other name => name

def ofName : String → Method
  | "GET" => .get
  | "POST" => .post
  | "PUT" => .put
  | "DELETE" => .delete
  | name => .other name

/-- Whether a request of the method may change what the backend holds. -/
def isWrite : Method → Bool
  | .post => true
  | .put => true
  | .delete => true
  | _ => false

end Method

/-- A request as it is put together, with the token that it carries. -/
structure Request where
  method : Method
  url : Url
  token : Option String
  body : Option Json
  /-- After how many milliseconds an answer is no longer waited for. -/
  timeout : Option Nat

/-- What comes back. -/
inductive Reply where
  /-- An answer and its text; there is none where the bytes are no text. -/
  | answered (status : Status) (text : Option String)
  | failed (cause : Unanswered)
  /-- The answer breaks off. -/
  | cutShort

namespace Request

def decodedText? (encoded : String) : Option String :=
  (Host.textOfBytes? (Text.percentDecode encoded.toList)).map String.ofList

/-- The name and password in the address, which are sent in a header instead. -/
def credentials? (r : Request) : Option (String × Option String) :=
  if r.url.host.isNone then none
  else
    match decodedText? r.url.user with
    | none => none
    | some user =>
      let password := r.url.password.bind decodedText?
      if user.isEmpty && password.isNone then none else some (user, password)

/-- The address without the credentials that go into a header. -/
def sentUrl (r : Request) : Url :=
  if r.credentials?.isSome then r.url.withoutCredentials else r.url

/-- The authorization headers: the credentials of the address, then the token. -/
def authorization (r : Request) : List String :=
  (r.credentials?.map fun c =>
    "Basic " ++ String.ofList
      (Text.base64 (c.1 ++ ":" ++ c.2.getD "").toUTF8.toList)).toList ++
    (r.token.map ("Bearer " ++ ·)).toList

/-- Whether a header can hold the text. -/
def isHeaderText (s : String) : Bool :=
  s.toUTF8.toList.all fun b => b == 9 || (32 ≤ b && b != 127)

/-- Why the request cannot be sent at all. -/
def refusal? (r : Request) : Option Unanswered :=
  if !r.url.hasHost then some (.unsendable (some r.url.render))
  else if !(r.token.map isHeaderText).getD true then some (.unsendable none)
  else if r.url.scheme = "http" ∨ r.url.scheme = "https" then none
  else some (.unsendable (some r.sentUrl.render))

end Request

/-- What the reply to a request, which errors name as given, means. Where the answer is no
envelope the status tells whether that is the backend's fault or the answer's. -/
def Reply.read (α : Type) [Wire α] (request : String) : Reply → Except Error α
  | .failed cause => .error (.transport cause)
  | .cutShort => .error (.decode .cutShort)
  | .answered status text =>
    let decoded :=
      match text with
      | some text => Wire.decode (Envelope α) text
      | none => .error ⟨.invalidCodePoint, some ⟨1, 1⟩⟩
    match decoded with
    | .ok e => e.result
    | .error fault =>
      if status.isSuccess then .error (.decode (.answer request fault))
      else .error (.transport (.status request status.text))

end DbConsole
