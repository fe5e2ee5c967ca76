import VideoPosters.Json.Document

/-!
# The value of a written number

A number without fraction and exponent that fits in 64 bits is an integer.  Any other
number is a binary real: its digits are gathered into a significand of 64 bits, digits
that no longer fit counting only as places, and the significand is multiplied or divided
by one power of ten.  Minus zero is real, since no integer is.

## Main definitions

* `gatherWhole`, `gatherFraction` — the significand of the digits.
* `scaleByTen` — a significand times a power of ten, rounded as described.
* `Numeral.value?` — the value of a number, unless it is too large.
-/

namespace VideoPosters.Json

open Decimal (Binary64)

/-- The greatest significand. -/
def greatestWord : Nat := Nat.pow 2 64 - 1

/-- The value of a decimal digit. -/
def digitValue (c : Char) : Nat := c.toNat - 48

/-- The significand of the digits before the point and how many of them no longer fit. -/
def gatherWhole (significand : Nat) : List Char → Nat × Nat
  | [] => (significand, 0)
  | c :: rest =>
    if greatestWord < significand * 10 + digitValue c then (significand, rest.length + 1)
    else gatherWhole (significand * 10 + digitValue c) rest

/-- The significand after the digits behind the point and how many of them still fit. -/
def gatherFraction (significand : Nat) : List Char → Nat × Nat
  | [] => (significand, 0)
  | c :: rest =>
    if greatestWord < significand * 10 + digitValue c then (significand, 0)
    else
      let (s, places) := gatherFraction (significand * 10 + digitValue c) rest
      (s, places + 1)

/-- A power of ten as a binary number. -/
def powerOfTen (n : Nat) : Binary64 := (Decimal.roundRatio (Nat.pow 10 n) 1).getD .zero

/-- `x · 10 ^ exponent`, in one step when the power is a binary number and after
divisions by `10 ^ 308` otherwise.  No number survives `fuel = 3` of those. -/
def scaleByTen : Nat → Binary64 → Int → Option Binary64
  | fuel, x, exponent =>
    if exponent.natAbs ≤ 308 then
      if 0 ≤ exponent then x.mul? (powerOfTen exponent.natAbs)
      else x.div? (powerOfTen exponent.natAbs)
    else if x.significand = 0 then some x
    else if 0 ≤ exponent then none
    else match fuel with
      | 0 => some .zero
      | fuel + 1 => (x.div? (powerOfTen 308)).bind fun y => scaleByTen fuel y (exponent + 308)

/-- The real with the given sign, significand and power of ten. -/
def realOf? (negative : Bool) (significand : Nat) (exponent : Int) : Option Json :=
  ((Binary64.ofNat significand).bind fun x => scaleByTen 3 x exponent).map fun x =>
    .real (if negative then x.neg else x)

/-- The value of a run of digits. -/
def digitsValue (digits : List Char) : Nat := digits.foldl (fun n c => n * 10 + digitValue c) 0

/-- The value of a number, unless it is too large. -/
def Numeral.value? (n : Numeral) : Option Json :=
  let (whole, extra) := gatherWhole 0 n.whole
  match n.fraction, n.exponent with
  | none, none =>
    if extra = 0 then
      if !n.negative then some (.int whole)
      else if whole = 0 || Nat.pow 2 63 < whole then realOf? true whole 0
      else some (.int (-whole))
    else realOf? n.negative whole extra
  | fraction, exponent =>
    let (significand, places) := gatherFraction whole (fraction.getD [])
    let start : Int := extra - places
    match exponent with
    | none => realOf? n.negative significand start
    | some (minus, digits) =>
      let e := digitsValue digits
      if Nat.pow 2 31 ≤ e && !minus && significand ≠ 0 then none
      else realOf? n.negative significand (if minus then start - e else start + e)

end VideoPosters.Json
