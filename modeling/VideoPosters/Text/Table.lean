import VideoPosters.Text.Hexadecimal
import VideoPosters.Text.Pieces

/-!
# Tables of code points

Tables are kept as lines of words with blanks between them.  In a word, code points are
written in hexadecimal, and a range is written with a hyphen between its ends.

## Main definitions

* `Table.words` — the words of a table.
* `Table.rangeOf` — the range that a word writes.
* `Table.ranges` — the ranges of a table of ranges.
* `Table.holds` — whether a code point lies in one of some ranges.
-/

namespace VideoPosters.Text.Table

/-- The words of a table. -/
def words (lines : List String) : List (List Char) :=
  lines.flatMap fun line => splitAt ' ' line.toList

/-- The range that a word writes. -/
def rangeOf (word : List Char) : Nat × Nat :=
  match splitAt '-' word with
  | first :: last :: _ => (valueOf 16 first, valueOf 16 last)
  | pieces => (valueOf 16 pieces.flatten, valueOf 16 pieces.flatten)

/-- The ranges of a table of ranges. -/
def ranges (lines : List String) : List (Nat × Nat) := (words lines).map rangeOf

/-- Whether a code point lies in one of some ranges. -/
def holds (ranges : List (Nat × Nat)) (c : Char) : Bool :=
  ranges.any fun (first, last) => first ≤ c.toNat && c.toNat ≤ last

end VideoPosters.Text.Table
