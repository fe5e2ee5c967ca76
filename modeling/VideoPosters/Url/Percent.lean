import VideoPosters.Text.Hexadecimal
import VideoPosters.Text.Utf8

/-!
# Percent-encoding

An octet that may not stand in some part of a URL is written as `%` and two hexadecimal
digits.  Which octets those are differs from part to part.

## Main definitions

* `percentEncode` — a text with the octets of a set, and all octets beyond ASCII, written
  so.
* `percentDecode` — the octets of a text in which such octets may occur.
* `inFragmentSet`, `inQuerySet`, … — the sets of the parts of a URL.
-/

namespace VideoPosters.Url

open Text

/-- A digit of a hexadecimal numeral, in upper case. -/
def upperHexDigit (n : Nat) : Char := if n < 10 then Char.ofNat (48 + n) else Char.ofNat (55 + n)

/-- An octet as `%` and two hexadecimal digits. -/
def percentTriplet (b : Nat) : List Char := ['%', upperHexDigit (b / 16), upperHexDigit (b % 16)]

/-- One character with its octets written as triplets where the set asks for it.  The set
is asked about ASCII octets only; octets beyond ASCII are always written as triplets. -/
def percentEncodeChar (inSet : Nat → Bool) (c : Char) : List Char :=
  if c.toNat < 0x80 then if inSet c.toNat then percentTriplet c.toNat else [c]
  else (Utf8.encodeChar c).flatMap percentTriplet

/-- A text with the octets of a set written as triplets. -/
def percentEncode (inSet : Nat → Bool) (s : List Char) : List Char :=
  s.flatMap (percentEncodeChar inSet)

/-- The octets of a text whose characters are octets, with triplets undone. -/
def percentDecodeOctets : List Nat → List Nat
  | 0x25 :: a :: b :: rest =>
    match hexDigitValue? (Char.ofNat a), hexDigitValue? (Char.ofNat b) with
    | some x, some y => (16 * x + y) :: percentDecodeOctets rest
    | _, _ => 0x25 :: percentDecodeOctets (a :: b :: rest)
  | c :: rest => c :: percentDecodeOctets rest
  | [] => []

/-- The octets of a text with triplets undone. -/
def percentDecode (s : List Char) : List Nat := percentDecodeOctets (Utf8.encode s)

/-! ### The sets of the parts of a URL -/

/-- Controls: all that an opaque path and an opaque host write as triplets. -/
def inControlSet (b : Nat) : Bool := b < 0x20 || b == 0x7F

/-- The set of the fragment. -/
def inFragmentSet (b : Nat) : Bool :=
  inControlSet b || b == 0x20 || b == 0x22 || b == 0x3C || b == 0x3E || b == 0x60

/-- The set of the query. -/
def inQuerySet (b : Nat) : Bool :=
  inControlSet b || b == 0x20 || b == 0x22 || b == 0x23 || b == 0x3C || b == 0x3E

/-- The set of the query of a special scheme, which has the apostrophe too. -/
def inSpecialQuerySet (b : Nat) : Bool := inQuerySet b || b == 0x27

/-- The set of the path. -/
def inPathSet (b : Nat) : Bool :=
  inFragmentSet b || b == 0x23 || b == 0x3F || b == 0x7B || b == 0x7D

/-- The set of user names and passwords. -/
def inUserinfoSet (b : Nat) : Bool :=
  inPathSet b || b == 0x2F || b == 0x3A || b == 0x3B || b == 0x3D || b == 0x40 ||
    (0x5B ≤ b && b ≤ 0x5E) || b == 0x7C

end VideoPosters.Url
