import VideoPosters.Domain.DirectionTable
import VideoPosters.Text.Table

/-!
# Directions of labels

In a domain name with letters that are written from right to left, each label has to keep
to one direction, so that it is read in one way only.

## Main definitions

* `Direction` — how a character goes with the directions.
* `Direction.ofChar` — that of a character.
* `isDirected` — whether a label keeps to one direction.
* `isBidirectional` — whether labels have to be checked.
-/

namespace VideoPosters.Domain

/-- How a character goes with the directions of writing. -/
inductive Direction where
  | leftToRight
  | rightToLeft
  | arabicNumber
  | europeanNumber
  | neutral
  | mark
  deriving DecidableEq, Repr

/-- The ranges of the characters written from right to left. -/
def rightToLeftRanges : List (Nat × Nat) := Text.Table.ranges rightToLeftTable

/-- The ranges of the digits of Arabic. -/
def arabicNumberRanges : List (Nat × Nat) := Text.Table.ranges arabicNumberTable

/-- The ranges of the European digits beyond ASCII. -/
def europeanNumberRanges : List (Nat × Nat) := Text.Table.ranges europeanNumberTable

/-- The ranges of the characters that go with either direction. -/
def neutralRanges : List (Nat × Nat) := Text.Table.ranges neutralTable

/-- The ranges of the marks that take no room of their own. -/
def nonspacingRanges : List (Nat × Nat) := Text.Table.ranges nonspacingTable

/-- How a character goes with the directions. -/
def Direction.ofChar (c : Char) : Direction :=
  if c.toNat < 0x80 then
    if c.isAlpha then .leftToRight else if c.isDigit then .europeanNumber else .neutral
  else if Text.Table.holds rightToLeftRanges c then .rightToLeft
  else if Text.Table.holds arabicNumberRanges c then .arabicNumber
  else if Text.Table.holds europeanNumberRanges c then .europeanNumber
  else if Text.Table.holds neutralRanges c then .neutral
  else if Text.Table.holds nonspacingRanges c then .mark
  else .leftToRight

/-- Whether a label ends, marks apart, with one of some directions. -/
def endsWith (allowed : List Direction) (label : List Direction) : Bool :=
  match label.reverse.dropWhile (· = .mark) with
  | last :: _ => allowed.contains last
  | [] => false

/-- Whether a label keeps to one direction, which its first character gives. -/
def isDirected (label : List Direction) : Bool :=
  match label.head? with
  | none => true
  | some .leftToRight =>
    label.all (fun d => d ≠ .rightToLeft && d ≠ .arabicNumber) &&
      endsWith [.leftToRight, .europeanNumber] label
  | some .rightToLeft =>
    label.all (· ≠ .leftToRight) && endsWith [.rightToLeft, .europeanNumber, .arabicNumber] label &&
      !(label.contains .europeanNumber && label.contains .arabicNumber)
  | some _ => false

/-- Whether some label has a character that is written from right to left. -/
def isBidirectional (labels : List (List Direction)) : Bool :=
  labels.any fun label => label.any fun d => d = .rightToLeft || d = .arabicNumber

/-- Whether labels keep to directions. -/
def areDirected (labels : List (List Char)) : Bool :=
  let directions := labels.map fun label => label.map Direction.ofChar
  !isBidirectional directions || directions.all isDirected

end VideoPosters.Domain
