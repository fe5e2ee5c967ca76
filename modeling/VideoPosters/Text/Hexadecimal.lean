/-!
# Numerals in bases up to sixteen

## Main definitions

* `hexDigitValue?` — the value of a hexadecimal digit.
* `valueOf` — the value of digits in a base.
-/

namespace VideoPosters.Text

/-- The value of a hexadecimal digit. -/
def hexDigitValue? (c : Char) : Option Nat :=
  if '0' ≤ c && c ≤ '9' then some (c.toNat - 48)
  else if 'a' ≤ c && c ≤ 'f' then some (c.toNat - 87)
  else if 'A' ≤ c && c ≤ 'F' then some (c.toNat - 55)
  else none

/-- Hexadecimal digits. -/
def isHexDigit (c : Char) : Bool := (hexDigitValue? c).isSome

/-- The value of digits in a base; other characters count as zero. -/
def valueOf (base : Nat) (digits : List Char) : Nat :=
  digits.foldl (fun n c => base * n + (hexDigitValue? c).getD 0) 0

end VideoPosters.Text
