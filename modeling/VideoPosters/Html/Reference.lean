import VideoPosters.Html.ReferenceNames
import VideoPosters.Text.Hexadecimal
import VideoPosters.Text.Pieces

/-!
# Character references

A character reference is an ampersand followed by a name of a character or by its number
after `#`, in decimal or, after a further `x`, in hexadecimal.  A semicolon ends it; where
it is left out, the longest old name counts.

## Main definitions

* `Reference.names`, `Reference.oldNames` — the names.
* `Reference.charOfNumber` — the character of a number.
* `Reference.read?` — the reference after an ampersand.
* `Reference.decode` — a text with its references replaced.
-/

namespace VideoPosters.Html.Reference

open Text (isHexDigit valueOf)

/-! ### Names -/

/-- The entry that a piece of the table writes. -/
def entryOf (piece : List Char) : List Char × List Char :=
  (piece.takeWhile (· ≠ '='),
    (Text.splitAt '+' ((piece.dropWhile (· ≠ '=')).drop 1)).map fun digits =>
      Char.ofNat (valueOf 16 digits))

/-- The names with the characters they stand for. -/
def names : List (List Char × List Char) :=
  (table.flatMap fun line => Text.splitAt ' ' line.toList).map entryOf

/-- The names that need no semicolon. -/
def oldNames : List (List Char) := oldTable.flatMap fun line => Text.splitAt ' ' line.toList

/-! ### Numbers -/

/-- The characters that the numbers from 128 to 159 stand for in the code page in which
they were once used; zero where the code page has no character. -/
def codePage : List Nat :=
  [0x20AC, 0, 0x201A, 0x0192, 0x201E, 0x2026, 0x2020, 0x2021, 0x02C6, 0x2030, 0x0160, 0x2039,
    0x0152, 0, 0x017D, 0, 0, 0x2018, 0x2019, 0x201C, 0x201D, 0x2022, 0x2013, 0x2014, 0x02DC,
    0x2122, 0x0161, 0x203A, 0x0153, 0, 0x017E, 0x0178]

/-- The character that stands for what is not one. -/
def replacement : Char := '\ufffd'

/-- The character of a number. -/
def charOfNumber (n : Nat) : Char :=
  if n = 0 || 0x10FFFF < n || (0xD800 ≤ n && n ≤ 0xDFFF) then replacement
  else
    match codePage[n - 0x80]? with
    | some code => if n < 0x80 || code = 0 then Char.ofNat n else Char.ofNat code
    | none => Char.ofNat n

/-! ### References -/

/-- One if a text starts with a semicolon, otherwise zero. -/
def semicolon : List Char → Nat
  | ';' :: _ => 1
  | _ => 0

/-- A number of a base that stands before the rest of a text, `marks` characters after the
ampersand. -/
def readNumber? (base marks : Nat) (isDigit : Char → Bool) (s : List Char) :
    Option (List Char × Nat) :=
  let digits := s.takeWhile isDigit
  if digits.isEmpty then none
  else some ([charOfNumber (valueOf base digits)],
    marks + digits.length + semicolon (s.dropWhile isDigit))

/-- The longest old name at the start of a text, of at most `length` characters. -/
def longestOldName? (s : List Char) : Nat → Option Nat
  | 0 => none
  | length + 1 =>
    if oldNames.contains (s.take (length + 1)) then some (length + 1)
    else longestOldName? s length

/-- Whether what follows a name without a semicolon makes it part of an address: within
the value of an attribute `&copy=1` is no reference. -/
def continuesAddress : List Char → Bool
  | c :: _ => c = '=' || c.isAlphanum
  | [] => false

/-- A name at the start of a text. -/
def readName? (inAttribute : Bool) (s : List Char) : Option (List Char × Nat) :=
  let run := s.takeWhile Char.isAlphanum
  match s.dropWhile Char.isAlphanum, names.lookup run with
  | ';' :: _, some characters => some (characters, run.length + 1)
  | _, _ =>
    match longestOldName? run run.length with
    | none => none
    | some length =>
      if inAttribute && continuesAddress (s.drop length) then none
      else (names.lookup (run.take length)).map fun characters => (characters, length)

/-- The reference that follows an ampersand: the characters it stands for and its length. -/
def read? (inAttribute : Bool) : List Char → Option (List Char × Nat)
  | '#' :: 'x' :: s => readNumber? 16 2 isHexDigit s
  | '#' :: 'X' :: s => readNumber? 16 2 isHexDigit s
  | '#' :: s => readNumber? 10 1 Char.isDigit s
  | s => readName? inAttribute s

/-- A text with its references replaced, of which the first `skipped` characters belong to
a reference that was replaced already. -/
def decodeAfter (inAttribute : Bool) (skipped : Nat) : List Char → List Char
  | [] => []
  | c :: s =>
    match skipped with
    | n + 1 => decodeAfter inAttribute n s
    | 0 =>
      if c = '&' then
        match read? inAttribute s with
        | some (characters, length) => characters ++ decodeAfter inAttribute length s
        | none => c :: decodeAfter inAttribute 0 s
      else c :: decodeAfter inAttribute 0 s

/-- A text with its references replaced. -/
def decode (inAttribute : Bool) (s : List Char) : List Char := decodeAfter inAttribute 0 s

end VideoPosters.Html.Reference
