/-!
# Binary floating-point numbers

The finite numbers of the 64-bit binary format, as sign, significand and scale.  Every
operation is exact arithmetic on integers followed by one rounding, so nothing here
depends on a machine.

## Main definitions

* `Binary64` — a finite number `± significand · 2 ^ scale`.
* `roundRatio` — the number nearest to a ratio of natural numbers, a tie going to the
  even significand; nothing when the ratio is too large for the format.
* `Binary64.mul?`, `Binary64.div?` — products and quotients of magnitudes.
-/

namespace VideoPosters.Decimal

/-- A finite number of the 64-bit binary format: `± significand · 2 ^ scale`.  The
significand of a normal number lies in `[2 ^ 52, 2 ^ 53)`; a smaller one goes with the
least scale, `-1074`. -/
structure Binary64 where
  /-- Whether the number carries a minus sign; zero has both signs. -/
  negative : Bool
  /-- The significand. -/
  significand : Nat
  /-- The power of two the significand is multiplied by. -/
  scale : Int
  deriving DecidableEq, Repr

/-- Division rounded to the nearest integer, a tie going to the even one. -/
def divideToEven (num den : Nat) : Nat :=
  let q := num / den
  let r := num % den
  if 2 * r < den then q else if den < 2 * r then q + 1 else if q % 2 = 0 then q else q + 1

/-- The magnitude zero. -/
def Binary64.zero : Binary64 := ⟨false, 0, -1074⟩

/-- The least scale of the format. -/
def leastScale : Int := -1074

/-- The greatest scale of the format. -/
def greatestScale : Int := 971

/-- The ratio `num / den` divided by `2 ^ scale`, rounded to an integer. -/
def significandAt (num den : Nat) (scale : Int) : Nat :=
  if scale < 0 then divideToEven (num * Nat.pow 2 scale.natAbs) den
  else divideToEven num (den * Nat.pow 2 scale.natAbs)

/-- The number nearest to `num / den`, if the format reaches that far. -/
def roundRatio (num den : Nat) : Option Binary64 :=
  if num = 0 then some .zero
  else
    -- The quotient lies in `[2 ^ (e - 1), 2 ^ (e + 1))`, so one of two scales fits.
    let e : Int := (Nat.log2 num : Int) - (Nat.log2 den : Int)
    let low := max (e - 53) leastScale
    let first := significandAt num den low
    let chosen : Nat × Int :=
      if first < Nat.pow 2 53 then (first, low)
      else (significandAt num den (low + 1), low + 1)
    let (m, s) := if chosen.1 = Nat.pow 2 53 then (Nat.pow 2 52, chosen.2 + 1) else chosen
    if greatestScale < s then none else some ⟨false, m, s⟩

/-- The magnitude of a natural number. -/
def Binary64.ofNat (n : Nat) : Option Binary64 := roundRatio n 1

/-- The number with the opposite sign. -/
def Binary64.neg (x : Binary64) : Binary64 := { x with negative := !x.negative }

/-- Numerator and denominator of a magnitude. -/
def Binary64.ratio (x : Binary64) : Nat × Nat :=
  if x.scale < 0 then (x.significand, Nat.pow 2 x.scale.natAbs)
  else (x.significand * Nat.pow 2 x.scale.natAbs, 1)

/-- The product of two magnitudes, if the format reaches that far. -/
def Binary64.mul? (x y : Binary64) : Option Binary64 :=
  let (a, b) := x.ratio
  let (c, d) := y.ratio
  roundRatio (a * c) (b * d)

/-- The quotient of two magnitudes. -/
def Binary64.div? (x y : Binary64) : Option Binary64 :=
  let (a, b) := x.ratio
  let (c, d) := y.ratio
  roundRatio (a * d) (b * c)

end VideoPosters.Decimal
