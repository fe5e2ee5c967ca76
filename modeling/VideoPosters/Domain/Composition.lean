import VideoPosters.Domain.CompositionTable
import VideoPosters.Text.Table

/-!
# Composed characters

Some characters are composed of a base and marks.  A text is in its composed form when
marks stand in the order of their classes and nothing can be composed any more.

## Main definitions

* `decompose` — a character as a base and marks.
* `arrange` — marks in the order of their classes.
* `compose` — bases with the marks that can be composed with them.
* `composedForm` — the composed form of a text.
-/

namespace VideoPosters.Domain

open Text (splitAt valueOf)

/-- A composed character and its two parts. -/
structure Composed where
  whole : Nat
  base : Nat
  mark : Nat
  deriving DecidableEq, Repr

/-- The composed character that a word writes. -/
def Composed.ofWord (word : List Char) : Composed :=
  let parts := splitAt '+' ((word.dropWhile (· ≠ '=')).drop 1)
  ⟨valueOf 16 (word.takeWhile (· ≠ '=')), valueOf 16 (parts.headD []),
    valueOf 16 (parts.getLastD [])⟩

/-- All composed characters, syllables of Hangul apart. -/
def composedCharacters : List Composed := (Text.Table.words composedTable).map Composed.ofWord

/-- A range of code points and their class. -/
def classOfWord (word : List Char) : (Nat × Nat) × Nat :=
  (Text.Table.rangeOf (word.takeWhile (· ≠ '=')), valueOf 16 ((word.dropWhile (· ≠ '=')).drop 1))

/-- The combining classes other than zero. -/
def classes : List ((Nat × Nat) × Nat) := (Text.Table.words classTable).map classOfWord

/-- The combining class of a character. -/
def combiningClass (c : Char) : Nat :=
  if c.toNat < 0x300 then 0
  else
    match classes.find? fun entry => entry.1.1 ≤ c.toNat && c.toNat ≤ entry.1.2 with
    | some entry => entry.2
    | none => 0

/-! ### Hangul -/

/-- The first syllable. -/
def firstSyllable : Nat := 0xAC00

/-- The first leading consonant. -/
def firstLeading : Nat := 0x1100

/-- The first vowel. -/
def firstVowel : Nat := 0x1161

/-- The code point before the first trailing consonant. -/
def beforeTrailing : Nat := 0x11A7

/-- The number of leading consonants. -/
def leadingCount : Nat := 19

/-- The number of vowels. -/
def vowelCount : Nat := 21

/-- The number of trailing consonants, one more for none. -/
def trailingCount : Nat := 28

/-- The consonants and the vowel of a syllable. -/
def splitSyllable? (code : Nat) : Option (List Nat) :=
  let n := code - firstSyllable
  if firstSyllable ≤ code && n < leadingCount * vowelCount * trailingCount then
    let start := [firstLeading + n / (vowelCount * trailingCount),
      firstVowel + n / trailingCount % vowelCount]
    some (if n % trailingCount = 0 then start else start ++ [beforeTrailing + n % trailingCount])
  else none

/-- The syllable of two parts. -/
def joinSyllable? (a b : Nat) : Option Nat :=
  let leading := a - firstLeading
  let vowel := b - firstVowel
  let inner := a - firstSyllable
  let trailing := b - beforeTrailing
  if firstLeading ≤ a && leading < leadingCount && firstVowel ≤ b && vowel < vowelCount then
    some (firstSyllable + (leading * vowelCount + vowel) * trailingCount)
  else if firstSyllable ≤ a && inner < leadingCount * vowelCount * trailingCount &&
      inner % trailingCount = 0 && beforeTrailing < b && trailing < trailingCount then
    some (a + trailing)
  else none

/-! ### Taking apart -/

/-- A code point as a base and marks, taken apart so many times at most. -/
def decomposeTimes : Nat → Nat → List Nat
  | 0, code => [code]
  | n + 1, code =>
    match composedCharacters.find? (·.whole = code) with
    | some composed => decomposeTimes n composed.base ++ [composed.mark]
    | none => [code]

/-- A character as a base and marks.  No character is composed more than three times. -/
def decompose (c : Char) : List Char :=
  if c.toNat < 0x80 then [c]
  else
    ((splitSyllable? c.toNat).getD (decomposeTimes 4 c.toNat)).map Char.ofNat

/-- Puts a mark into a run of marks before those of higher classes. -/
def insertMark (c : Char) : List Char → List Char
  | [] => [c]
  | d :: rest =>
    if combiningClass c < combiningClass d then c :: d :: rest else d :: insertMark c rest

/-- Puts marks in the order of their classes; `run` holds the marks since the last base. -/
def arrangeAfter (run : List Char) : List Char → List Char
  | [] => run
  | c :: rest =>
    if combiningClass c = 0 then run ++ c :: arrangeAfter [] rest
    else arrangeAfter (insertMark c run) rest

/-- Puts marks in the order of their classes. -/
def arrange (s : List Char) : List Char := arrangeAfter [] s

/-! ### Composing -/

/-- The character composed of two others. -/
def composePair? (a b : Char) : Option Char :=
  match joinSyllable? a.toNat b.toNat with
  | some code => some (Char.ofNat code)
  | none =>
    let isOfPair (composed : Composed) : Bool := composed.base = a.toNat && composed.mark = b.toNat
    (composedCharacters.find? isOfPair).map fun composed => Char.ofNat composed.whole

/-- Composes a base with what follows; `skipped` holds the marks in between that could not be
composed, in reverse. -/
def composeAfter (base : Char) (skipped : List Char) : List Char → List Char
  | [] => base :: skipped.reverse
  | c :: rest =>
    let blocked := match skipped with
      | [] => false
      | d :: _ => combiningClass c ≤ combiningClass d
    match if blocked then none else composePair? base c with
    | some whole => composeAfter whole skipped rest
    | none =>
      if combiningClass c = 0 then base :: skipped.reverse ++ composeAfter c [] rest
      else composeAfter base (c :: skipped) rest

/-- Composes what can be composed.  Marks before the first base stay as they are. -/
def compose : List Char → List Char
  | [] => []
  | c :: rest => if combiningClass c = 0 then composeAfter c [] rest else c :: compose rest

/-- The composed form of a text. -/
def composedForm (s : List Char) : List Char := compose (arrange (s.flatMap decompose))

end VideoPosters.Domain
