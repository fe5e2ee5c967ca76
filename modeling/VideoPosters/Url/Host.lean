import VideoPosters.Url.Basic
import VideoPosters.Url.Percent
import VideoPosters.Text.Pieces
import VideoPosters.Domain.Ascii

/-!
# Hosts

## Main definitions

* `Host.ofSpecial?` — the host of a special scheme: an IPv6 address in brackets, an IPv4
  address in one of its many spellings, or a domain name in its ASCII form.
* `Host.ofOther?` — the host of any other scheme.
-/

namespace VideoPosters.Url

open Text (splitAt hexDigitValue?)

/-! ### IPv4 addresses -/

/-- The value of a run of digits in a base, if they are digits of that base. -/
def digitsInBase? (base : Nat) (s : List Char) : Option Nat :=
  s.foldl (fun n c => do
    let n ← n
    let d ← hexDigitValue? c
    if d < base then some (base * n + d) else none) (some 0)

/-- A number of an IPv4 address: hexadecimal after `0x`, octal after another zero, decimal
otherwise. -/
def ipv4Number? : List Char → Option Nat
  | [] => none
  | '0' :: x :: rest =>
    if x = 'x' || x = 'X' then digitsInBase? 16 rest else digitsInBase? 8 (x :: rest)
  | s => digitsInBase? 10 s

/-- The labels of a name, without the empty one after a final dot. -/
def labelsOf (s : List Char) : List (List Char) :=
  let labels := splitAt '.' s
  if 1 < labels.length && labels.getLast? = some [] then labels.dropLast else labels

/-- Whether the last label of a name is a number, so that it has to be an IPv4 address. -/
def endsInNumber (s : List Char) : Bool :=
  match (labelsOf s).getLast? with
  | some last => !last.isEmpty && (last.all Char.isDigit || (ipv4Number? last).isSome)
  | none => false

/-- The numbers of all labels. -/
def ipv4Numbers? : List (List Char) → Option (List Nat)
  | [] => some []
  | label :: rest => do
    let n ← ipv4Number? label
    some (n :: (← ipv4Numbers? rest))

/-- The address of one to four numbers: all but the last are single octets, the last fills
the octets that remain. -/
def ipv4OfNumbers? (numbers : List Nat) : Option Nat :=
  match numbers.reverse with
  | [] => none
  | last :: before =>
    let count := before.length
    if 3 < count || Nat.pow 256 (4 - count) ≤ last || before.any (255 < ·) then none
    else
      some (before.reverse.zipIdx.foldl (fun sum (n, i) => sum + n * Nat.pow 256 (3 - i)) last)

/-- The IPv4 address that a name spells. -/
def ipv4? (s : List Char) : Option Nat := (ipv4Numbers? (labelsOf s)).bind ipv4OfNumbers?

/-! ### IPv6 addresses -/

/-- One octet of a dotted address inside an IPv6 address: no leading zero. -/
def dottedOctet? (s : List Char) : Option Nat :=
  if s.isEmpty || !s.all Char.isDigit || (1 < s.length && s.head? = some '0') then none
  else match digitsInBase? 10 s with
    | some n => if n ≤ 255 then some n else none
    | none => none

/-- The two pieces of a dotted address inside an IPv6 address. -/
def dottedPieces? (s : List Char) : Option (List Nat) :=
  match splitAt '.' s with
  | [a, b, c, d] => do
    let a ← dottedOctet? a
    let b ← dottedOctet? b
    let c ← dottedOctet? c
    let d ← dottedOctet? d
    some [a * 256 + b, c * 256 + d]
  | _ => none

/-- The pieces of an IPv6 address: those before the `::`, and those after it if it has been
met; both in reverse. -/
def ipv6Pieces? : Nat → List Nat → Option (List Nat) → List Char →
    Option (List Nat × Option (List Nat))
  | _, before, after, [] => some (before, after)
  | 0, _, _, _ :: _ => none
  | fuel + 1, before, after, c :: rest =>
    let count := before.length + (match after with | some l => l.length + 1 | none => 0)
    let add (pieces : List Nat) : List Nat × Option (List Nat) := match after with
      | some l => (before, some (pieces.reverse ++ l))
      | none => (pieces.reverse ++ before, none)
    if 8 ≤ count then none
    else if c = ':' then if after.isSome then none else ipv6Pieces? fuel before (some []) rest
    else
      let s := c :: rest
      let digits := (s.takeWhile fun d => (hexDigitValue? d).isSome).take 4
      let next := s.drop digits.length
      match next with
      | '.' :: _ =>
        if digits.isEmpty || 6 < count then none else (dottedPieces? s).map add
      | ':' :: next' =>
        if next'.isEmpty then none
        else do
          let (before, after) := add [← digitsInBase? 16 digits]
          ipv6Pieces? fuel before after next'
      | [] => (digitsInBase? 16 digits).map fun n => add [n]
      | _ => none

/-- The IPv6 address of the text between the brackets. -/
def ipv6? (s : List Char) : Option (List Nat) := do
  let (before, after) ← match s with
    | ':' :: ':' :: rest => ipv6Pieces? (rest.length + 1) [] (some []) rest
    | ':' :: _ => none
    | _ => ipv6Pieces? (s.length + 1) [] none s
  match after with
  | none => if before.length = 8 then some before.reverse else none
  | some after =>
    some (before.reverse ++ List.replicate (8 - before.length - after.length) 0 ++ after.reverse)

/-- The host between brackets. -/
def bracketed? (s : List Char) : Except Error Host :=
  match s.reverse with
  | ']' :: inner =>
    match ipv6? inner.reverse with
    | some pieces => .ok (.ipv6 pieces)
    | none => .error .invalidIpv6
  | _ => .error .invalidIpv6

/-! ### Hosts -/

/-- The host of a special scheme. -/
def Host.ofSpecial? (s : List Char) : Except Error Host :=
  match s with
  | '[' :: rest => bracketed? rest
  | _ =>
    match Domain.toAscii? (percentDecode s) with
    | none => .error .invalidDomainName
    | some domain =>
      if domain.isEmpty then .error .emptyHost
      else if endsInNumber domain then
        match ipv4? domain with
        | some address => .ok (.ipv4 address)
        | none => .error .invalidIpv4
      else .ok (.name domain)

/-- The characters that no opaque host may have. -/
def isForbiddenInHost (c : Char) : Bool :=
  c.toNat = 0 || "\t\n\r #/:<>?@[\\]^|".toList.contains c

/-- The host of a scheme that is not special. -/
def Host.ofOther? (s : List Char) : Except Error Host :=
  match s with
  | '[' :: rest => bracketed? rest
  | _ =>
    if s.any isForbiddenInHost then .error .invalidDomainCharacter
    else .ok (.name (percentEncode inControlSet s))

end VideoPosters.Url
