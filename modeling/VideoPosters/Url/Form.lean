import VideoPosters.Url.Basic
import VideoPosters.Url.Percent
import VideoPosters.Text.Pieces

/-!
# Parameters of a query

Named parameters are joined with `&`, a name and its value with `=`.  A space is written
as `+`, and every octet that is neither an ASCII letter or digit nor one of `*-._` as a
percent triplet.

## Main definitions

* `Url.withParameters` — a URL with parameters appended to its query.
* `Url.parameters` — the parameters of a URL.
-/

namespace VideoPosters.Url

open Text (splitAt)

/-- A parameter: its name and its value. -/
abbrev Parameter := List Char × List Char

/-- One octet of a name or value. -/
def encodeFormOctet (b : Nat) : List Char :=
  let c := Char.ofNat b
  if b = 0x20 then ['+']
  else if b < 0x80 && (c.isAlphanum || c = '*' || c = '-' || c = '.' || c = '_') then [c]
  else percentTriplet b

/-- The written form of a name or value. -/
def encodeForm (s : List Char) : List Char := (Text.Utf8.encode s).flatMap encodeFormOctet

/-- The written form of a parameter. -/
def renderParameter (p : Parameter) : List Char := encodeForm p.1 ++ '=' :: encodeForm p.2

/-- A query with parameters appended, an `&` before each but at the very start. -/
def appendParameters (query : List Char) : List Parameter → List Char
  | [] => query
  | p :: rest =>
    let start := if query.isEmpty then [] else query ++ ['&']
    appendParameters (start ++ renderParameter p) rest

/-- A URL with parameters appended to its query. -/
def withParameters (url : Url) (ps : List Parameter) : Url :=
  { url with query := some (appendParameters (url.query.getD []) ps) }

/-- The text of a written name or value. -/
def decodeForm (s : List Char) : List Char :=
  Text.Utf8.decodeLossy (percentDecode (s.map fun c => if c = '+' then ' ' else c))

/-- The parameter of a piece of a query: the value starts after the first `=`. -/
def parameterOf (piece : List Char) : Parameter :=
  (decodeForm (piece.takeWhile (· ≠ '=')), decodeForm ((piece.dropWhile (· ≠ '=')).drop 1))

/-- The parameters of a query.  Empty pieces are none. -/
def parametersOf (query : List Char) : List Parameter :=
  ((splitAt '&' query).filter (!·.isEmpty)).map parameterOf

/-- The parameters of a URL. -/
def parameters (url : Url) : List Parameter := parametersOf (url.query.getD [])

end VideoPosters.Url
