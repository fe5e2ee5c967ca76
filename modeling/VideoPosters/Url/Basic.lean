import VideoPosters.Decimal.Shortest

/-!
# URLs

A parsed URL, part by part, and its written form.

## Main definitions

* `Url.Host`, `Url.Path`, `Url` — the parts.
* `Url.render` — the written form.
* `Url.Error` — why a text is not a URL.
-/

namespace VideoPosters

/-- The host of a URL. -/
inductive Url.Host where
  /-- A name.  It may be empty, except under a special scheme other than `file`. -/
  | name (s : List Char)
  /-- An IPv4 address. -/
  | ipv4 (address : Nat)
  /-- An IPv6 address in eight pieces. -/
  | ipv6 (pieces : List Nat)
  deriving DecidableEq, Repr

/-- The path of a URL. -/
inductive Url.Path where
  /-- A path without structure, to which nothing is relative. -/
  | opaquePath (s : List Char)
  /-- The segments, each of which a slash precedes. -/
  | segments (parts : List (List Char))
  deriving DecidableEq, Repr

/-- A parsed URL.  All texts are in their written, percent-encoded form. -/
structure Url where
  scheme : List Char
  username : List Char
  password : List Char
  /-- The host, if the URL has an authority. -/
  host : Option Url.Host
  /-- The port, unless it is the scheme's own. -/
  port : Option Nat
  path : Url.Path
  query : Option (List Char)
  fragment : Option (List Char)
  deriving DecidableEq, Repr

namespace Url

/-- Why a text is not a URL. -/
inductive Error where
  | emptyHost
  | invalidDomainName
  | invalidPort
  | invalidIpv4
  | invalidIpv6
  | invalidDomainCharacter
  | relativeWithoutBase
  | relativeWithOpaqueBase
  deriving DecidableEq, Repr

/-- The words for an error. -/
def Error.message : Error → String
  | .emptyHost => "empty host"
  | .invalidDomainName => "invalid international domain name"
  | .invalidPort => "invalid port number"
  | .invalidIpv4 => "invalid IPv4 address"
  | .invalidIpv6 => "invalid IPv6 address"
  | .invalidDomainCharacter => "invalid domain character"
  | .relativeWithoutBase => "relative URL without a base"
  | .relativeWithOpaqueBase => "relative URL with a cannot-be-a-base base"

/-! ### Schemes -/

/-- The kinds of schemes. -/
inductive SchemeKind where
  /-- The scheme of local files. -/
  | file
  /-- A scheme of the web, with a host that cannot be empty. -/
  | special
  /-- Any other scheme. -/
  | other
  deriving DecidableEq, Repr

/-- The kind of a scheme. -/
def schemeKind (scheme : List Char) : SchemeKind :=
  let s := String.ofList scheme
  if s = "file" then .file
  else if s = "http" || s = "https" || s = "ws" || s = "wss" || s = "ftp" then .special
  else .other

/-- Whether a scheme takes `\` for `/`. -/
def SchemeKind.isSpecial : SchemeKind → Bool
  | .other => false
  | _ => true

/-- The port a scheme implies. -/
def defaultPort? (scheme : List Char) : Option Nat :=
  let s := String.ofList scheme
  if s = "http" || s = "ws" then some 80
  else if s = "https" || s = "wss" then some 443
  else if s = "ftp" then some 21
  else none

/-! ### Writing -/

/-- The longest run of zeros in `pieces`, as its start and length; `index` is the index of
the first piece and `best` the longest run before it. -/
def longestZeros (index start length : Nat) (best : Nat × Nat) : List Nat → Nat × Nat
  | [] => if best.2 < length then (start, length) else best
  | p :: rest =>
    if p = 0 then
      longestZeros (index + 1) (if length = 0 then index else start) (length + 1) best rest
    else longestZeros (index + 1) 0 0 (if best.2 < length then (start, length) else best) rest

/-- The pieces of an IPv6 address with colons between them. -/
def renderPieces : List Nat → List Char
  | [] => []
  | [p] => Nat.toDigits 16 p
  | p :: q :: rest => Nat.toDigits 16 p ++ ':' :: renderPieces (q :: rest)

/-- The written form of an IPv6 address: the first longest run of two or more zero pieces
is left out. -/
def renderIpv6 (pieces : List Nat) : List Char :=
  let (start, length) := longestZeros 0 0 0 (0, 1) pieces
  if 1 < length then
    renderPieces (pieces.take start) ++ [':', ':'] ++ renderPieces (pieces.drop (start + length))
  else renderPieces pieces

/-- The written form of an IPv4 address. -/
def renderIpv4 (address : Nat) : List Char :=
  Decimal.numeral (address / Nat.pow 2 24 % 256) ++ '.' ::
    Decimal.numeral (address / Nat.pow 2 16 % 256) ++ '.' ::
    Decimal.numeral (address / Nat.pow 2 8 % 256) ++ '.' :: Decimal.numeral (address % 256)

/-- The written form of a host. -/
def Host.render : Host → List Char
  | .name s => s
  | .ipv4 address => renderIpv4 address
  | .ipv6 pieces => '[' :: renderIpv6 pieces ++ [']']

/-- User name and password with the `@` after them, if there are any. -/
def renderCredentials (username password : List Char) : List Char :=
  if username.isEmpty && password.isEmpty then []
  else if password.isEmpty then username ++ ['@']
  else username ++ ':' :: password ++ ['@']

/-- The written form of a path. -/
def Path.render : Path → List Char
  | .opaquePath s => s
  | .segments parts => parts.flatMap fun s => '/' :: s

/-- A port with its colon. -/
def renderPort : Option Nat → List Char
  | some port => ':' :: Decimal.numeral port
  | none => []

/-- What stands between the scheme and the path. -/
def renderAuthority (url : Url) : List Char :=
  match url.host, url.path with
  | some host, _ =>
    '/' :: '/' :: renderCredentials url.username url.password ++ host.render ++
      renderPort url.port
  -- Without this a path with an empty first segment would read as an authority.
  | none, .segments ([] :: (_ :: _)) => ['/', '.']
  | none, _ => []

/-- The scheme, the authority and the path. -/
def renderUpToPath (url : Url) : List Char :=
  url.scheme ++ ':' :: renderAuthority url ++ url.path.render

/-- The query with its mark. -/
def renderQuery : Option (List Char) → List Char
  | some query => '?' :: query
  | none => []

/-- The fragment with its mark. -/
def renderFragment : Option (List Char) → List Char
  | some fragment => '#' :: fragment
  | none => []

/-- The written form of a URL. -/
def render (url : Url) : List Char :=
  url.renderUpToPath ++ renderQuery url.query ++ renderFragment url.fragment

/-- The written form of a URL as a string. -/
def toText (url : Url) : String := String.ofList url.render

/-- Scheme, host and port: where a request for the URL goes. -/
def origin (url : Url) : List Char × Option Host × Option Nat := (url.scheme, url.host, url.port)

end Url

end VideoPosters
