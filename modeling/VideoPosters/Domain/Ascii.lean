import VideoPosters.Domain.Composition
import VideoPosters.Domain.Direction
import VideoPosters.Domain.Joining
import VideoPosters.Domain.Mapping
import VideoPosters.Domain.Punycode
import VideoPosters.Text.Utf8

/-!
# Domain names in ASCII

A domain name is a row of labels with dots between them.  Characters beyond ASCII are first
replaced by what they stand for; labels that still have some are then written with a prefix
and in ASCII characters.

## Main definitions

* `isForbidden` — the characters that no domain name of a URL may have.
* `label?` — what a label stands for, if it is well-formed.
* `asciiLabel` — a label in ASCII characters.
* `toAscii?` — the ASCII form of a domain name.
-/

namespace VideoPosters.Domain

/-- The characters that no domain name of a URL may have. -/
def isForbidden (c : Char) : Bool :=
  c.toNat ≤ 0x20 || c.toNat = 0x7F || "%#/:<>?@[\\]^|".toList.contains c

/-- Whether all characters are in ASCII. -/
def isAscii (s : List Char) : Bool := s.all fun c => c.toNat < 0x80

/-- The prefix of labels that are written in ASCII characters. -/
def asciiPrefix : List Char := "xn--".toList

/-- Whether a label with characters beyond ASCII is well-formed. -/
def isWellFormed (label : List Char) : Bool :=
  !label.head?.any isMark && areJoinersInPlace label

/-- Whether a label may have been written in ASCII characters: it must need it and must be
what its own characters stand for. -/
def isEncodable (label : List Char) : Bool :=
  !isAscii label && label.all isValid && composedForm label = label &&
    !asciiPrefix.isPrefixOf label

/-- What a label stands for, if it is well-formed. -/
def label? (label : List Char) : Option (List Char) :=
  if asciiPrefix.isPrefixOf label then do
    let decoded ← Punycode.decode? (label.drop asciiPrefix.length)
    if isAscii label && isEncodable decoded && isWellFormed decoded then some decoded else none
  else if isAscii label || isWellFormed label then some label
  else none

/-- A label in ASCII characters. -/
def asciiLabel (label : List Char) : List Char :=
  if isAscii label then label else asciiPrefix ++ Punycode.encode label

/-- The ASCII form of a domain name given in octets. -/
def toAscii? (octets : List Nat) : Option (List Char) := do
  let s ← Text.Utf8.decode? octets
  let s ← mapAll? s
  let labels ← (Text.splitAt '.' (composedForm s)).mapM label?
  if labels.any (·.any isForbidden) || !areDirected labels then none
  else some (Text.joinWith ['.'] (labels.map asciiLabel))

end VideoPosters.Domain
