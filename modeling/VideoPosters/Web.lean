import VideoPosters.Failure
import VideoPosters.Url.Parse
import VideoPosters.Url.Percent
import VideoPosters.Waiting

/-!
# The web

The web answers a request or cannot be reached.  A request is for a URL of the schemes
`http` and `https`; user name and password are sent apart from the URL.

## Main definitions

* `Web.Request`, `Web.Response`, `Web` — what is asked, what is answered, and who answers.
* `Web.Exchange` — an outcome, how long it takes, and the requests that were answered on the
  way to it.
* `Web.get` — a request for a URL.
* `Web.getText` — the text that a request brings, unless its status is that of an error.
* `Web.reason?` — the standard words for a status.
-/

namespace VideoPosters

namespace Web

/-- A request. -/
structure Request where
  url : Url
  /-- The kinds of content that are asked for. -/
  accept : String
  deriving DecidableEq, Repr

/-- An answer. -/
structure Response where
  status : Nat
  body : String
  deriving DecidableEq, Repr

/-- Any kind of content. -/
def anyContent : String := "*/*"

/-- Marked-up text. -/
def markupContent : String := "text/html"

/-- A request as it is logged: fragments are not sent. -/
def Request.toText (request : Request) : String :=
  "GET " ++ { request.url with fragment := none }.toText ++ " accept=" ++ request.accept

end Web

/-- The web: what each request is answered with, if the server can be reached. -/
abbrev Web := Web.Request → Option Web.Response

namespace Web

/-- A web of which nothing can be reached. -/
def unreachable : Web := fun _ => none

/-- An outcome, how long it takes, and the requests that were answered on the way to it.
Whoever turns to the web waits for one round. -/
structure Exchange (α : Type) extends Delayed α where
  requests : List Request
  deriving Repr

/-- The exchange in which the web is left alone. -/
def Exchange.silent {α : Type} (outcome : α) : Exchange α := ⟨.now outcome, []⟩

/-- The exchange with another outcome. -/
def Exchange.map {α β : Type} (f : α → β) (e : Exchange α) : Exchange β :=
  ⟨e.toDelayed.map f, e.requests⟩

/-! ### Statuses -/

/-- The standard words for a status. -/
def reason? (status : Nat) : Option String :=
  List.lookup status [
    (100, "Continue"), (101, "Switching Protocols"), (102, "Processing"),
    (200, "OK"), (201, "Created"), (202, "Accepted"), (203, "Non Authoritative Information"),
    (204, "No Content"), (205, "Reset Content"), (206, "Partial Content"),
    (207, "Multi-Status"), (208, "Already Reported"), (226, "IM Used"),
    (300, "Multiple Choices"), (301, "Moved Permanently"), (302, "Found"), (303, "See Other"),
    (304, "Not Modified"), (305, "Use Proxy"), (307, "Temporary Redirect"),
    (308, "Permanent Redirect"),
    (400, "Bad Request"), (401, "Unauthorized"), (402, "Payment Required"),
    (403, "Forbidden"), (404, "Not Found"), (405, "Method Not Allowed"),
    (406, "Not Acceptable"), (407, "Proxy Authentication Required"), (408, "Request Timeout"),
    (409, "Conflict"), (410, "Gone"), (411, "Length Required"), (412, "Precondition Failed"),
    (413, "Payload Too Large"), (414, "URI Too Long"), (415, "Unsupported Media Type"),
    (416, "Range Not Satisfiable"), (417, "Expectation Failed"), (418, "I'm a teapot"),
    (421, "Misdirected Request"), (422, "Unprocessable Entity"), (423, "Locked"),
    (424, "Failed Dependency"), (425, "Too Early"), (426, "Upgrade Required"),
    (428, "Precondition Required"), (429, "Too Many Requests"),
    (431, "Request Header Fields Too Large"), (451, "Unavailable For Legal Reasons"),
    (500, "Internal Server Error"), (501, "Not Implemented"), (502, "Bad Gateway"),
    (503, "Service Unavailable"), (504, "Gateway Timeout"),
    (505, "HTTP Version Not Supported"), (506, "Variant Also Negotiates"),
    (507, "Insufficient Storage"), (508, "Loop Detected"), (510, "Not Extended"),
    (511, "Network Authentication Required")]

/-- A number as a string. -/
def numeralText (n : Nat) : String := String.ofList (Decimal.numeral n)

/-- A status with its words. -/
def statusText (status : Nat) : String :=
  numeralText status ++ " " ++ (reason? status).getD "<unknown status code>"

/-- Whether a status says that all went well. -/
def isSuccess (status : Nat) : Bool := 200 ≤ status && status < 300

/-! ### Requests -/

/-- Whether a user name or password can be sent: it has to be text. -/
def isSendable (s : List Char) : Bool := (Text.Utf8.decode? (Url.percentDecode s)).isSome

/-- A URL without user name and password, which are sent apart from it. -/
def withoutCredentials (url : Url) : Url :=
  if isSendable url.username && isSendable url.password then
    { url with username := [], password := [] }
  else url

/-- Whether a character may stand in the host of a request. -/
def isHostChar (c : Char) : Bool := c ≠ '"' && c ≠ '\x60' && c ≠ '\x7b' && c ≠ '\x7d'

/-- Whether a request can be made for a URL. -/
def isRequestable (url : Url) : Bool :=
  (url.scheme = "http".toList || url.scheme = "https".toList) &&
    match url.host with
    | some host => host.render.all isHostChar
    | none => false

/-- The words for a failure about a URL. -/
def aboutUrl (words : String) (url : Url) : String := words ++ " for url (" ++ url.toText ++ ")"

/-- A request for a URL. -/
def get (web : Web) (url : Url) (accept : String) : Exchange (Except String Response) :=
  let request : Request := ⟨withoutCredentials url, accept⟩
  if isRequestable request.url then
    match web request with
    | some response => ⟨⟨1, .ok response⟩, [request]⟩
    | none => ⟨⟨1, .error (aboutUrl "error sending request" request.url)⟩, []⟩
  else .silent (.error (aboutUrl "builder error" request.url))

/-- A status of an error with its words in parentheses; a status without standard words
leaves their place empty. -/
def errorStatusText (kind : String) (status : Nat) : String :=
  "HTTP status " ++ kind ++ " error (" ++ numeralText status ++ " " ++
    (reason? status).getD "" ++ ")"

/-- The text of an answer, unless its status is that of an error. -/
def textOf (url : Url) (response : Response) : Except String String :=
  if 400 ≤ response.status && response.status < 500 then
    .error (aboutUrl (errorStatusText "client" response.status) url)
  else if 500 ≤ response.status && response.status < 600 then
    .error (aboutUrl (errorStatusText "server" response.status) url)
  else if response.status = 204 then .ok ""
  else .ok response.body

/-- The text that a request brings, unless its status is that of an error. -/
def getText (web : Web) (url : Url) (accept : String) : Exchange (Except String String) :=
  (web.get url accept).map fun outcome => do textOf (withoutCredentials url) (← outcome)

end Web

end VideoPosters
