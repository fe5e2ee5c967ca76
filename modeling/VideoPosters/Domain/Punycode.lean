/-!
# Names in ASCII characters

A label with characters beyond ASCII is written with letters, digits and hyphens: first its
ASCII characters, then the others as the distances between them, in a numeral system of
base 36 in which each digit has a threshold that adapts to the distances before.

## Main definitions

* `Punycode.encode` — the ASCII form of a label.
* `Punycode.decode?` — the label of an ASCII form.
-/

namespace VideoPosters.Domain.Punycode

/-- The digits, letters before numerals. -/
def digit (n : Nat) : Char := if n < 26 then Char.ofNat (97 + n) else Char.ofNat (22 + n)

/-- The value of a digit. -/
def digitValue? (c : Char) : Option Nat :=
  if 'a' ≤ c && c ≤ 'z' then some (c.toNat - 97)
  else if 'A' ≤ c && c ≤ 'Z' then some (c.toNat - 65)
  else if '0' ≤ c && c ≤ '9' then some (c.toNat - 22)
  else none

/-- The threshold of the digit at a place; places count in steps of 36. -/
def threshold (place bias : Nat) : Nat :=
  if place ≤ bias then 1 else if bias + 26 ≤ place then 26 else place - bias

theorem one_le_threshold (place bias : Nat) : 1 ≤ threshold place bias := by
  unfold threshold; split <;> (try split) <;> omega

theorem threshold_le (place bias : Nat) : threshold place bias ≤ 26 := by
  unfold threshold; split <;> (try split) <;> omega

/-- Divides a distance by 35 until it is small; each division adds 36 to the bias. -/
def settleBias (delta bias : Nat) : Nat × Nat :=
  if 455 < delta then settleBias (delta / 35) (bias + 36) else (delta, bias)
termination_by delta
decreasing_by exact Nat.div_lt_self (by omega) (by omega)

/-- The bias after a distance; `count` is the number of characters then. -/
def adapt (delta count : Nat) (isFirst : Bool) : Nat :=
  let delta := if isFirst then delta / 700 else delta / 2
  let (delta, bias) := settleBias (delta + delta / count) 0
  bias + 36 * delta / (delta + 38)

/-! ### Encoding -/

/-- The digits of a distance. -/
def digitsOf (bias place n : Nat) : List Char :=
  let t := threshold place bias
  if n < t then [digit n]
  else digit (t + (n - t) % (36 - t)) :: digitsOf bias (place + 36) ((n - t) / (36 - t))
termination_by n
decreasing_by
  have h₁ := one_le_threshold place bias
  have h₂ := Nat.div_le_self (n - threshold place bias) (36 - threshold place bias)
  omega

/-- The state of an encoding. -/
structure Encoding where
  output : List Char
  delta : Nat
  bias : Nat
  /-- The number of characters written so far. -/
  count : Nat

/-- Walks over one character while those of a code point are written. -/
def Encoding.step (basicCount code : Nat) (e : Encoding) (c : Char) : Encoding :=
  if c.toNat < code then { e with delta := e.delta + 1 }
  else if c.toNat = code then
    { output := e.output ++ digitsOf e.bias 36 e.delta
      delta := 0
      bias := adapt e.delta (e.count + 1) (e.count = basicCount)
      count := e.count + 1 }
  else e

/-- Writes the characters of some code points, which come in order; `next` is the lowest code
point that may come. -/
def encodeCodes (s : List Char) (basicCount : Nat) : Nat → Encoding → List Nat → Encoding
  | _, e, [] => e
  | next, e, code :: codes =>
    let e := { e with delta := e.delta + (code - next) * (e.count + 1) }
    let e := s.foldl (Encoding.step basicCount code) e
    encodeCodes s basicCount (code + 1) { e with delta := e.delta + 1 } codes

/-- The code points beyond ASCII, in order, each once. -/
def codesBeyond (s : List Char) : List Nat :=
  (((s.filter fun c => 0x80 ≤ c.toNat).map Char.toNat).mergeSort (· ≤ ·)).eraseDups

/-- The ASCII form of a label. -/
def encode (s : List Char) : List Char :=
  let basic := s.filter fun c => c.toNat < 0x80
  let start : Encoding := ⟨[], 0, 72, basic.length⟩
  basic ++ (if basic.isEmpty then [] else ['-']) ++
    (encodeCodes s basic.length 0x80 start (codesBeyond s)).output

/-! ### Decoding -/

/-- Reads a distance: it is added to `n`, with the weight of the digit that comes.  Returns
the sum and the rest. -/
def readDistance? (bias place weight n : Nat) : List Char → Option (Nat × List Char)
  | [] => none
  | c :: rest => do
    let d ← digitValue? c
    let n := n + d * weight
    let t := threshold place bias
    if d < t then some (n, rest) else readDistance? bias (place + 36) (weight * (36 - t)) n rest

/-- Puts characters at the places that the distances tell; `fuel` is the number of characters
that may still be read. -/
def decodeDistances? : Nat → Nat → Nat → Nat → List Char → List Char → Option (List Char)
  | _, _, _, _, decoded, [] => some decoded
  | 0, _, _, _, _, _ :: _ => none
  | fuel + 1, code, place, bias, decoded, rest => do
    let (n, rest) ← readDistance? bias 36 1 place rest
    let count := decoded.length + 1
    let code := code + n / count
    let here := n % count
    if 0x10FFFF < code || 0xD800 ≤ code && code ≤ 0xDFFF then none
    else
      decodeDistances? fuel code (here + 1) (adapt (n - place) count (place = 0))
        (decoded.take here ++ Char.ofNat code :: decoded.drop here) rest

/-- The label of an ASCII form. -/
def decode? (s : List Char) : Option (List Char) :=
  let tail := (s.reverse.takeWhile (· ≠ '-')).reverse
  let basic := s.take (s.length - tail.length - 1)
  if basic.isEmpty then decodeDistances? s.length 0x80 0 72 [] s
  else decodeDistances? tail.length 0x80 0 72 basic tail

end VideoPosters.Domain.Punycode
