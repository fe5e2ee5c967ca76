import VideoPosters.Decimal.Shortest
import VideoPosters.Json.Entries

/-!
# JSON values

A value holds its object fields in the order of their names, each name once: that is
the order in which a value is written.

## Main definitions

* `Json` — null, booleans, integers, binary reals, texts, arrays and objects.
* `Json.get?`, `Json.at?` — the member of an object, of an array.
* `Json.height` — how deep arrays and objects are nested.
* `Json.render` — the compact written form.
-/

namespace VideoPosters

open Decimal (Binary64)

/-- A JSON value.  A number without fraction and exponent that fits in 64 bits, signed
or unsigned, is an integer; every other number is a binary real. -/
inductive Json where
  | null
  | bool (b : Bool)
  | int (n : Int)
  | real (x : Binary64)
  | text (s : String)
  | array (items : List Json)
  | object (fields : List (String × Json))
  deriving Repr, Inhabited

namespace Json

/-- The value of a member of an object. -/
def get? (name : String) : Json → Option Json
  | .object fields => Entries.get? name fields
  | _ => none

/-- The value at a place of an array. -/
def at? (index : Nat) : Json → Option Json
  | .array items => items[index]?
  | _ => none

mutual

/-- How deep the arrays and objects of a value are nested. -/
def height : Json → Nat
  | .array items => heightOfItems items + 1
  | .object fields => heightOfFields fields + 1
  | _ => 0

/-- How deep the arrays and objects of some items are nested. -/
def heightOfItems : List Json → Nat
  | [] => 0
  | item :: items => max item.height (heightOfItems items)

/-- How deep the arrays and objects of some fields are nested. -/
def heightOfFields : List (String × Json) → Nat
  | [] => 0
  | (_, value) :: fields => max value.height (heightOfFields fields)

end

/-- A hexadecimal digit of a control character. -/
def hexDigit (n : Nat) : Char := if n < 10 then Char.ofNat (48 + n) else Char.ofNat (87 + n)

/-- One character of a written text. -/
def renderChar (c : Char) : List Char :=
  if c = '"' then ['\\', '"']
  else if c = '\\' then ['\\', '\\']
  else if c.toNat = 8 then ['\\', 'b']
  else if c.toNat = 9 then ['\\', 't']
  else if c.toNat = 10 then ['\\', 'n']
  else if c.toNat = 12 then ['\\', 'f']
  else if c.toNat = 13 then ['\\', 'r']
  else if c.toNat < 0x20 then
    ['\\', 'u', '0', '0', hexDigit (c.toNat / 16), hexDigit (c.toNat % 16)]
  else [c]

/-- A written text. -/
def renderText (s : String) : List Char := '"' :: s.toList.flatMap renderChar ++ ['"']

/-- A written integer. -/
def renderInt (n : Int) : List Char :=
  if n < 0 then '-' :: Decimal.numeral n.natAbs else Decimal.numeral n.natAbs

mutual

/-- The compact written form of a value. -/
def render : Json → List Char
  | .null => "null".toList
  | .bool true => "true".toList
  | .bool false => "false".toList
  | .int n => renderInt n
  | .real x => Decimal.render x
  | .text s => renderText s
  | .array [] => ['[', ']']
  | .array (item :: items) => '[' :: render item ++ renderItems items
  | .object [] => ['\x7b', '\x7d']
  | .object ((name, value) :: fields) =>
    '\x7b' :: renderText name ++ ':' :: render value ++ renderFields fields

/-- The items after the first, and the end of the array. -/
def renderItems : List Json → List Char
  | [] => [']']
  | item :: items => ',' :: render item ++ renderItems items

/-- The fields after the first, and the end of the object. -/
def renderFields : List (String × Json) → List Char
  | [] => ['\x7d']
  | (name, value) :: fields =>
    ',' :: renderText name ++ ':' :: render value ++ renderFields fields

end

/-- The compact written form of a value as a string. -/
def toText (v : Json) : String := String.ofList v.render

end Json

end VideoPosters
