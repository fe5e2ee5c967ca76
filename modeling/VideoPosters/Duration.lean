import VideoPosters.Decimal.Shortest
import VideoPosters.Text.Digit

/-!
# Playing times

Video durations as ISO 8601 writes them: `P` and the components years, months, weeks and
days, then `T` and hours, minutes and seconds, each component optional.  An `M` before
the `T` is months, one after it minutes.

Reading never fails.  It starts at the first `P` of the text, takes each component that
stands next in that order, and ends at the first character that continues nothing.  A
component's number may be of any script, but only a number of ASCII digits below
`2 ^ 64` has a value; any other counts as zero.

## Main definitions

* `Duration` — the seven components.
* `Duration.parse` — reads a text.
* `Duration.display` — the playing time `M:SS` or `H:MM:SS`.
* `Duration.clockSeconds` — hours, minutes and seconds in seconds, held at `2 ^ 64 - 1`.
-/

namespace VideoPosters

open Text (isDecimalDigit)

/-- The components of a duration. -/
structure Duration where
  years : Nat
  months : Nat
  weeks : Nat
  days : Nat
  hours : Nat
  minutes : Nat
  seconds : Nat
  deriving DecidableEq, Repr, Inhabited

namespace Duration

/-- The duration whose components are all zero. -/
def zero : Duration := ⟨0, 0, 0, 0, 0, 0, 0⟩

/-- The greatest value of a component. -/
def greatest : Nat := Nat.pow 2 64 - 1

/-! ### Reading -/

/-- The value of a run of ASCII digits. -/
def decimalValue (digits : List Char) : Nat :=
  digits.foldl (fun n c => 10 * n + (c.toNat - 48)) 0

/-- The value of a component's number. -/
def numberValue (digits : List Char) : Nat :=
  if digits.all Char.isDigit then
    let n := decimalValue digits
    if n ≤ greatest then n else 0
  else 0

/-- The component with the given unit at the start of a text: its value and the text after
it.  Without such a component the value is zero and nothing is taken. -/
def component (unit : Char) (s : List Char) : Nat × List Char :=
  let digits := s.takeWhile isDecimalDigit
  match digits, s.dropWhile isDecimalDigit with
  | _ :: _, u :: rest => if u = unit then (numberValue digits, rest) else (0, s)
  | _, _ => (0, s)

/-- Hours, minutes and seconds, if a `T` introduces them. -/
def clock : List Char → Nat × Nat × Nat
  | 'T' :: s =>
    let (hours, s) := component 'H' s
    let (minutes, s) := component 'M' s
    let (seconds, _) := component 'S' s
    (hours, minutes, seconds)
  | _ => (0, 0, 0)

/-- The components that follow a `P`. -/
def afterP (s : List Char) : Duration :=
  let (years, s) := component 'Y' s
  let (months, s) := component 'M' s
  let (weeks, s) := component 'W' s
  let (days, s) := component 'D' s
  let (hours, minutes, seconds) := clock s
  ⟨years, months, weeks, days, hours, minutes, seconds⟩

/-- The duration of a text given as characters. -/
def parseChars : List Char → Duration
  | [] => zero
  | c :: rest => if c = 'P' then afterP rest else parseChars rest

/-- The duration of a text. -/
def parse (text : String) : Duration := parseChars text.toList

/-! ### Writing -/

/-- A numeral of at least two digits. -/
def twoDigits (n : Nat) : List Char :=
  if n < 10 then '0' :: Decimal.numeral n else Decimal.numeral n

/-- The playing time: `M:SS`, or `H:MM:SS` once there are hours. -/
def displayChars (d : Duration) : List Char :=
  if 0 < d.hours then
    Decimal.numeral d.hours ++ ':' :: twoDigits d.minutes ++ ':' :: twoDigits d.seconds
  else Decimal.numeral d.minutes ++ ':' :: twoDigits d.seconds

/-- The playing time as a string. -/
def display (d : Duration) : String := String.ofList d.displayChars

/-- A number held at the greatest value. -/
def hold (n : Nat) : Nat := min n greatest

/-- Hours, minutes and seconds in seconds, every step held at the greatest value. -/
def clockSeconds (d : Duration) : Nat :=
  hold (hold (hold (d.hours * 3600) + hold (d.minutes * 60)) + d.seconds)

@[simp] theorem parseChars_nil : parseChars [] = zero := rfl

/-- Reading starts at a `P`. -/
@[simp] theorem parseChars_cons_P (rest : List Char) : parseChars ('P' :: rest) = afterP rest := rfl

/-- Characters before the first `P` do not matter. -/
theorem parseChars_append {s : List Char} (h : 'P' ∉ s) (t : List Char) :
    parseChars (s ++ t) = parseChars t := by
  induction s with
  | nil => rfl
  | cons c rest ih =>
    simp only [List.mem_cons, not_or] at h
    rw [List.cons_append, parseChars, if_neg fun e => h.1 e.symm, ih h.2]

end Duration

end VideoPosters
