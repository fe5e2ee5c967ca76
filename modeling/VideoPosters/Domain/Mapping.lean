import VideoPosters.Domain.MappingTable
import VideoPosters.Text.Table

/-!
# The characters of domain names

A character of a domain name stands for itself, for other characters or for nothing, or it
must not occur.

## Main definitions

* `image?` — what a character stands for.
* `isValid` — whether a character stands for itself.
* `mapAll?` — what a text stands for.
-/

namespace VideoPosters.Domain

open Text (splitAt valueOf)

/-- What the code points of a range stand for. -/
inductive Target where
  /-- They stand for as many others in order, of which this is the first. -/
  | shifted (start : Nat)
  /-- Every second one, beginning with the first, stands for its successor. -/
  | successors
  /-- They all stand for the same. -/
  | common (image : List Nat)
  deriving DecidableEq, Repr

/-- A range of code points and what they stand for. -/
structure Rule where
  first : Nat
  last : Nat
  target : Target
  deriving DecidableEq, Repr

/-- The signs in a word of the table of rules. -/
def isSign (c : Char) : Bool := c = '=' || c = '~' || c = '>'

/-- The code points of an image. -/
def codesOf (s : List Char) : List Nat :=
  if s.isEmpty then [] else (splitAt '+' s).map (valueOf 16)

/-- The rule that a word writes. -/
def Rule.ofWord (word : List Char) : Rule :=
  let (first, last) := Text.Table.rangeOf (word.takeWhile fun c => !isSign c)
  match word.dropWhile fun c => !isSign c with
  | '=' :: start => ⟨first, last, .shifted (valueOf 16 start)⟩
  | '~' :: last => ⟨first, valueOf 16 last, .successors⟩
  | _ :: image => ⟨first, last, .common (codesOf image)⟩
  | [] => ⟨first, last, .common []⟩

/-- The code points that a rule puts in the place of one in its range; none if the rule does
not apply. -/
def Rule.imageOf? (code : Nat) (rule : Rule) : Option (List Nat) :=
  if rule.first ≤ code && code ≤ rule.last then
    match rule.target with
    | .shifted start => some [start + (code - rule.first)]
    | .successors => if (code - rule.first) % 2 = 0 then some [code + 1] else none
    | .common image => some image
  else none

/-- The ranges of the code points that stand for themselves. -/
def validRanges : List (Nat × Nat) := Text.Table.ranges validTable

/-- The rules for the code points that stand for others. -/
def rules : List Rule := (Text.Table.words mappedTable).map Rule.ofWord

/-- Whether a character stands for itself. -/
def isValid (c : Char) : Bool :=
  if c.toNat < 0x80 then !c.isUpper else Text.Table.holds validRanges c

/-- What a character stands for; none if it must not occur. -/
def image? (c : Char) : Option (List Char) :=
  if c.toNat < 0x80 then some [c.toLower]
  else if isValid c then some [c]
  else (rules.findSome? (·.imageOf? c.toNat)).map fun codes => codes.map Char.ofNat

/-- What a text stands for; none if it has a character that must not occur. -/
def mapAll? (s : List Char) : Option (List Char) := (s.mapM image?).map List.flatten

end VideoPosters.Domain
