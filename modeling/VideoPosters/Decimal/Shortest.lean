import VideoPosters.Decimal.Binary64

/-!
# The fewest digits that read back

A binary number is written with the fewest decimal digits that no other binary number
is nearer to, and of the decimals with that many digits with the nearest one.

## Main definitions

* `Scientific` — a decimal `digits · 10 ^ exponent`.
* `shortest` — the fewest digits of a positive number that read back.
* `render` — the written form: positional for moderate exponents, always with a
  fraction, and scientific otherwise.
-/

namespace VideoPosters.Decimal

/-- A positive decimal `digits · 10 ^ exponent`. -/
structure Scientific where
  /-- The digits, read as a number. -/
  digits : Nat
  /-- The power of ten. -/
  exponent : Int
  deriving DecidableEq, Repr

/-- Decimal digits of a natural number, most significant first. -/
def numeral (n : Nat) : List Char := Nat.toDigits 10 n

/-- A number `n` of units `2 ^ (scale - 2)` over a power of ten: `num / den` is
`n · 2 ^ (scale - 2) / 10 ^ exponent`. -/
def unitsOver (n : Nat) (scale exponent : Int) : Nat × Nat :=
  let two := scale - 2
  let num := n * Nat.pow 2 two.toNat * Nat.pow 10 (-exponent).toNat
  let den := Nat.pow 2 (-two).toNat * Nat.pow 10 exponent.toNat
  (num, den)

/-- The decimal exponent of the leading digit of a positive number. -/
def leadingExponent (x : Binary64) : Int :=
  let (a, b) := x.ratio
  ((numeral (a * Nat.pow 10 340 / b)).length : Int) - 341

/-- The candidate with digits on the grid `10 ^ exponent` that reads back as `x`, if
there is one: of the two grid points next to `x` the nearer one. -/
def onGrid? (x : Binary64) (exponent : Int) : Option Scientific :=
  -- All quantities are multiples of a quarter of the last binary place.
  let value := 4 * x.significand
  let below := if x.significand = Nat.pow 2 52 && leastScale < x.scale then value - 1 else value - 2
  let above := value + 2
  let closed := x.significand % 2 = 0
  let (v, d) := unitsOver value x.scale exponent
  let (lo, _) := unitsOver below x.scale exponent
  let (hi, _) := unitsOver above x.scale exponent
  let reads (k : Nat) : Bool :=
    0 < k && if closed then lo ≤ k * d && k * d ≤ hi else lo < k * d && k * d < hi
  let down := v / d
  let up := down + 1
  let nearerUp := 2 * (v % d) > d || (2 * (v % d) = d && down % 2 = 1)
  match reads down, reads up with
  | true, true => some ⟨if nearerUp then up else down, exponent⟩
  | true, false => some ⟨down, exponent⟩
  | false, true => some ⟨up, exponent⟩
  | false, false => none

/-- The first of the grids with `places`, `places + 1`, … digits that holds a decimal
reading back as `x`. -/
def searchGrids (x : Binary64) (leading : Int) : Nat → Nat → Scientific
  | places, 0 => ⟨x.significand, places⟩
  | places, fuel + 1 =>
    match onGrid? x (leading - places + 1) with
    | some s => s
    | none => searchGrids x leading (places + 1) fuel

/-- The fewest digits of a positive number that read back. -/
def shortest (x : Binary64) : Scientific := searchGrids x (leadingExponent x) 1 18

/-- Digits without the zeros at their end, and how many those were. -/
def dropTrailingZeros : List Char → List Char × Nat
  | digits =>
    let kept := (digits.reverse.dropWhile (· = '0')).reverse
    (kept, digits.length - kept.length)

/-- The written form of a number.  With a decimal exponent from `-5` to `15` it is
positional and has a fraction; otherwise it is scientific, with a sign only before a
positive exponent. -/
def render (x : Binary64) : List Char :=
  let sign : List Char := if x.negative then ['-'] else []
  if x.significand = 0 then sign ++ ['0', '.', '0']
  else
    let s := shortest x
    let (digits, zeros) := dropTrailingZeros (numeral s.digits)
    let exponent := s.exponent + zeros
    -- The value is `0.digits · 10 ^ point`.
    let point : Int := digits.length + exponent
    let body : List Char :=
      if 0 < point && point ≤ 16 then
        if (digits.length : Int) ≤ point then
          digits ++ List.replicate (point.toNat - digits.length) '0' ++ ['.', '0']
        else digits.take point.toNat ++ ['.'] ++ digits.drop point.toNat
      else if -5 < point && point ≤ 0 then
        ['0', '.'] ++ List.replicate point.natAbs '0' ++ digits
      else
        let e := point - 1
        let mantissa := match digits with
          | [] => []
          | [d] => [d]
          | d :: rest => d :: '.' :: rest
        mantissa ++ ['e', if e < 0 then '-' else '+'] ++ numeral e.natAbs
    sign ++ body

end VideoPosters.Decimal
