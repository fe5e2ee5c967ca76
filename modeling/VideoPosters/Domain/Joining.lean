import VideoPosters.Domain.Composition
import VideoPosters.Domain.JoiningTable

/-!
# Joiners in labels

Two characters without a shape of their own tell their neighbours to join or not to join.
They may occur only where they change how a word looks.

## Main definitions

* `isMark` — the characters that cannot begin a label.
* `areJoinersInPlace` — whether the joiners of a label stand where they may.
-/

namespace VideoPosters.Domain

/-- The character that tells its neighbours not to join. -/
def nonJoiner : Char := '\u200c'

/-- The character that tells its neighbours to join. -/
def joiner : Char := '\u200d'

/-- The class of the marks that take the vowel from a consonant. -/
def viramaClass : Nat := 9

/-- The ranges of the marks. -/
def markRanges : List (Nat × Nat) := Text.Table.ranges markTable

/-- The marks, which cannot begin a label. -/
def isMark (c : Char) : Bool := Text.Table.holds markRanges c

/-- The ranges of the characters that join to the following one. -/
def forwardRanges : List (Nat × Nat) :=
  Text.Table.ranges dualJoiningTable ++ Text.Table.ranges leftJoiningTable

/-- The ranges of the characters that join to the preceding one. -/
def backwardRanges : List (Nat × Nat) :=
  Text.Table.ranges dualJoiningTable ++ Text.Table.ranges rightJoiningTable

/-- The ranges of the characters that joining ignores. -/
def transparentRanges : List (Nat × Nat) := Text.Table.ranges transparentTable

/-- The first character that joining does not ignore. -/
def nextJoining? (s : List Char) : Option Char :=
  s.find? fun c => !Text.Table.holds transparentRanges c

/-- Whether a character joins to the following one. -/
def joinsForward (c : Char) : Bool := Text.Table.holds forwardRanges c

/-- Whether a character joins to the preceding one. -/
def joinsBackward (c : Char) : Bool := Text.Table.holds backwardRanges c

/-- Whether the joiners of a text stand where they may; `before` is what stands before it, in
reverse.  Either may stand after a virama, and the one that parts its neighbours also between
two characters that would join. -/
def areJoinersInPlaceAfter (before : List Char) : List Char → Bool
  | [] => true
  | c :: rest =>
    let followsVirama := before.head?.any fun d => combiningClass d = viramaClass
    let isInPlace :=
      if c = nonJoiner then
        followsVirama ||
          (nextJoining? before).any joinsForward && (nextJoining? rest).any joinsBackward
      else if c = joiner then followsVirama
      else true
    isInPlace && areJoinersInPlaceAfter (c :: before) rest

/-- Whether the joiners of a label stand where they may. -/
def areJoinersInPlace (label : List Char) : Bool := areJoinersInPlaceAfter [] label

end VideoPosters.Domain
