import VideoPosters.Text.Visible

/-!
# Texts shown in quotation marks

An error that shows a text writes it between quotation marks, on one line, with the
characters nobody could see spelled out by number.

## Main definitions

* `quote` — a text between quotation marks.
-/

namespace VideoPosters.Text

/-- A digit of a hexadecimal numeral, in lower case. -/
def hexDigit (n : Nat) : Char := if n < 10 then Char.ofNat (48 + n) else Char.ofNat (87 + n)

/-- The hexadecimal numeral of a number, in lower case. -/
def hexNumeral (n : Nat) : List Char := Nat.toDigits 16 n

/-- One character between quotation marks. -/
def quoteChar (c : Char) : List Char :=
  if c = '\x00' then ['\\', '0']
  else if c = '\t' then ['\\', 't']
  else if c = '\r' then ['\\', 'r']
  else if c = '\n' then ['\\', 'n']
  else if c = '"' || c = '\\' then ['\\', c]
  else if isVisible c then [c]
  else ['\\', 'u', '\x7b'] ++ hexNumeral c.toNat ++ ['\x7d']

/-- A text between quotation marks. -/
def quote (s : List Char) : List Char := '"' :: s.flatMap quoteChar ++ ['"']

end VideoPosters.Text
