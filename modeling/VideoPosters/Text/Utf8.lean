/-!
# UTF-8

Characters as octets.  Octets are natural numbers below 256, so that the laws are
laws of arithmetic.

## Main definitions

* `charSize`, `size` — how many octets a character, a text takes.
* `encodeChar`, `encode` — the octets of a character, of a text.
* `decodeStep` — the character at the start of a sequence of octets, or the length of
  the longest start of a character that its first octets are.
* `decode?` — the text of a sequence of octets, if it is well formed.
* `decodeLossy` — the text of any sequence of octets, each ill-formed part replaced by
  the replacement character.
-/

namespace VideoPosters.Text.Utf8

/-- How many octets a character takes. -/
def charSize (c : Char) : Nat :=
  let n := c.toNat
  if n < 0x80 then 1 else if n < 0x800 then 2 else if n < 0x10000 then 3 else 4

/-- How many octets a text takes. -/
def size : List Char → Nat
  | [] => 0
  | c :: rest => charSize c + size rest

@[simp] theorem size_nil : size [] = 0 := rfl

@[simp] theorem size_cons (c : Char) (rest : List Char) :
    size (c :: rest) = charSize c + size rest := rfl

/-- The size of a text is the sum of the sizes of its parts. -/
theorem size_append (s t : List Char) : size (s ++ t) = size s + size t := by
  induction s with
  | nil => simp
  | cons c rest ih => simp [ih, Nat.add_assoc]

/-- The octets of a character. -/
def encodeChar (c : Char) : List Nat :=
  let n := c.toNat
  if n < 0x80 then [n]
  else if n < 0x800 then [0xC0 + n / 0x40, 0x80 + n % 0x40]
  else if n < 0x10000 then [0xE0 + n / 0x1000, 0x80 + n / 0x40 % 0x40, 0x80 + n % 0x40]
  else [0xF0 + n / 0x40000, 0x80 + n / 0x1000 % 0x40, 0x80 + n / 0x40 % 0x40, 0x80 + n % 0x40]

/-- The octets of a text. -/
def encode (s : List Char) : List Nat := s.flatMap encodeChar

/-- What stands at the start of a sequence of octets. -/
inductive Start where
  /-- A character, and the octets after it. -/
  | char (c : Char) (rest : List Nat)
  /-- No character; the octets after the ill-formed part. -/
  | bad (rest : List Nat)
  deriving Repr

/-- Whether an octet continues a character. -/
def isTail (b : Nat) : Bool := 0x80 ≤ b && b ≤ 0xBF

/-- A character of two octets whose first is `a`. -/
def decodeTwo (a : Nat) : List Nat → Start
  | b :: rest =>
    if isTail b then .char (Char.ofNat ((a - 0xC0) * 0x40 + (b - 0x80))) rest
    else .bad (b :: rest)
  | [] => .bad []

/-- A character of three octets whose first is `a` and whose second lies between `low`
and `high`. -/
def decodeThree (a low high : Nat) : List Nat → Start
  | b :: rest =>
    if low ≤ b && b ≤ high then
      match rest with
      | c :: rest' =>
        if isTail c then
          .char (Char.ofNat ((a - 0xE0) * 0x1000 + (b - 0x80) * 0x40 + (c - 0x80))) rest'
        else .bad (c :: rest')
      | [] => .bad []
    else .bad (b :: rest)
  | [] => .bad []

/-- A character of four octets whose first is `a` and whose second lies between `low`
and `high`. -/
def decodeFour (a low high : Nat) : List Nat → Start
  | b :: rest =>
    if low ≤ b && b ≤ high then
      match rest with
      | c :: rest' =>
        if isTail c then
          match rest' with
          | d :: rest'' =>
            if isTail d then
              .char (Char.ofNat ((a - 0xF0) * 0x40000 + (b - 0x80) * 0x1000 +
                (c - 0x80) * 0x40 + (d - 0x80))) rest''
            else .bad (d :: rest'')
          | [] => .bad []
        else .bad (c :: rest')
      | [] => .bad []
    else .bad (b :: rest)
  | [] => .bad []

/-- The start of the sequence `a :: rest`.  An ill-formed part is as long as it could
still have become a character. -/
def decodeStep (a : Nat) (rest : List Nat) : Start :=
  if a < 0x80 then .char (Char.ofNat a) rest
  else if 0xC2 ≤ a && a ≤ 0xDF then decodeTwo a rest
  else if a == 0xE0 then decodeThree a 0xA0 0xBF rest
  else if a == 0xED then decodeThree a 0x80 0x9F rest
  else if 0xE1 ≤ a && a ≤ 0xEF then decodeThree a 0x80 0xBF rest
  else if a == 0xF0 then decodeFour a 0x90 0xBF rest
  else if 0xF1 ≤ a && a ≤ 0xF3 then decodeFour a 0x80 0xBF rest
  else if a == 0xF4 then decodeFour a 0x80 0x8F rest
  else .bad rest

/-- The text of at most `fuel` characters or ill-formed parts, `onBad` standing for the
latter. -/
def decodeWith (onBad : Option Char) : Nat → List Nat → Option (List Char)
  | _, [] => some []
  | 0, _ :: _ => none
  | fuel + 1, a :: rest =>
    match decodeStep a rest with
    | .char c rest' => (decodeWith onBad fuel rest').map (c :: ·)
    | .bad rest' =>
      match onBad with
      | none => none
      | some c => (decodeWith onBad fuel rest').map (c :: ·)

/-- The text of a well-formed sequence of octets. -/
def decode? (octets : List Nat) : Option (List Char) := decodeWith none octets.length octets

/-- The text of any sequence of octets, with U+FFFD for each ill-formed part. -/
def decodeLossy (octets : List Nat) : List Char :=
  (decodeWith (some '\uFFFD') octets.length octets).getD []

end VideoPosters.Text.Utf8
