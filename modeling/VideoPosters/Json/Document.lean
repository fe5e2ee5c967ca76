import VideoPosters.Json.ReadError
import VideoPosters.Text.Utf8

/-!
# The shape of a JSON document

Reading a document against an expected form reports the first thing wrong in the order
of the text, whether it is the text or the form.  So a text is first given a shape that
keeps everything up to the point where it breaks; the expected form is then compared
with that shape from left to right.

A value that nothing asks for is skipped, and skipping is laxer than reading: it does
not pair surrogates and does not look at the size of a number.  It is stricter in one
place: a number cut short by the end of the text is malformed rather than ended.  The
shape keeps what both need.

## Main definitions

* `Numeral` — a number as written.
* `Passage` — a text as written, with or without a surrogate that has no partner.
* `Node` — a value, up to a break if there is one.
* `Document` — a node, and whether something follows it.
* `Document.ofText` — the shape of a text.
* `Node.skip` — what skipping a node runs into.
* `Node.ofJson` — the shape of a value.
-/

namespace VideoPosters.Json

/-- A number as written. -/
structure Numeral where
  negative : Bool
  /-- The digits before the point. -/
  whole : List Char
  /-- The digits after the point, if there is one. -/
  fraction : Option (List Char)
  /-- Whether the exponent is negative, and its digits, if there is one. -/
  exponent : Option (Bool × List Char)
  deriving Repr, DecidableEq

/-- A text as written. -/
inductive Passage where
  /-- A text of characters. -/
  | plain (s : String)
  /-- A text with a surrogate that has no partner, and what breaks it afterwards. -/
  | unpaired (afterwards : Option Break)
  /-- A text that does not come to its end. -/
  | cut (b : Break)
  deriving Repr, DecidableEq

/-- A value, up to the point where the text breaks. -/
inductive Node where
  | null
  | bool (b : Bool)
  | number (n : Numeral)
  /-- A number of a value already in memory. -/
  | int (n : Int)
  | real (x : Decimal.Binary64)
  | text (p : Passage)
  /-- The items, and what stands in place of the next comma or the end. -/
  | array (items : List Node) (stop : Option Break)
  /-- The fields, and what stands in place of the next field or the end. -/
  | object (fields : List (Passage × Node)) (stop : Option Break)
  /-- No value: the breaks that reading and skipping report. -/
  | broken (onRead onSkip : Break)
  deriving Repr, Inhabited

/-- A node, and whether more than blanks follows it. -/
structure Document where
  root : Node
  trailing : Bool
  deriving Repr

/-! ### Numbers -/

/-- The blanks of JSON. -/
def isSpace (c : Char) : Bool := c = ' ' || c = '\n' || c = '\t' || c = '\r'

/-- A text without the blanks at its start. -/
def skipSpace (s : List Char) : List Char := s.dropWhile isSpace

/-- A node and the text after it. -/
abbrev Step := Node × List Char

/-- A break at the given rest of the text. -/
def breakAt : List Char → Break
  | [] => .ended
  | _ :: _ => .malformed

/-- A number that breaks off before the rest: skipping calls it malformed either way. -/
def brokenNumber (rest : List Char) : Step := (.broken (breakAt rest) .malformed, rest)

/-- A number from its exponent on. -/
def readExponent (negative : Bool) (whole : List Char) (fraction : Option (List Char))
    (s : List Char) : Step :=
  match s with
  | e :: s' =>
    if e = 'e' || e = 'E' then
      let (minus, s'') : Bool × List Char := match s' with
        | '+' :: r => (false, r)
        | '-' :: r => (true, r)
        | r => (false, r)
      let digits := s''.takeWhile Char.isDigit
      if digits.isEmpty then brokenNumber s''
      else (.number ⟨negative, whole, fraction, some (minus, digits)⟩, s''.dropWhile Char.isDigit)
    else (.number ⟨negative, whole, fraction, none⟩, s)
  | [] => (.number ⟨negative, whole, fraction, none⟩, [])

/-- A number from its point on. -/
def readFraction (negative : Bool) (whole : List Char) (s : List Char) : Step :=
  match s with
  | '.' :: s' =>
    let digits := s'.takeWhile Char.isDigit
    if digits.isEmpty then brokenNumber s'
    else readExponent negative whole (some digits) (s'.dropWhile Char.isDigit)
  | _ => readExponent negative whole none s

/-- A number after its sign. -/
def readNumber (negative : Bool) (s : List Char) : Step :=
  match s with
  | '0' :: s' =>
    if (s'.head?.map Char.isDigit).getD false then (.broken .malformed .malformed, s')
    else readFraction negative ['0'] s'
  | _ =>
    let digits := s.takeWhile Char.isDigit
    if digits.isEmpty then brokenNumber s
    else readFraction negative digits (s.dropWhile Char.isDigit)

/-! ### Texts -/

/-- The value of a hexadecimal digit. -/
def hexValue? (c : Char) : Option Nat :=
  if '0' ≤ c && c ≤ '9' then some (c.toNat - 48)
  else if 'a' ≤ c && c ≤ 'f' then some (c.toNat - 87)
  else if 'A' ≤ c && c ≤ 'F' then some (c.toNat - 55)
  else none

/-- The code unit of four hexadecimal digits, and the text after them.  Fewer than four
octets left means the text ends too early, whatever they are. -/
def readUnit (s : List Char) : Except Break (Nat × List Char) :=
  match s with
  | a :: b :: c :: d :: rest =>
    match hexValue? a, hexValue? b, hexValue? c, hexValue? d with
    | some a, some b, some c, some d => .ok (a * 0x1000 + b * 0x100 + c * 0x10 + d, rest)
    | _, _, _, _ => .error .malformed
  | s => if Text.Utf8.size s < 4 then .error .ended else .error .malformed

/-- What an escape after `\u` stands for. -/
inductive Escape where
  /-- A character, and the text after the escape. -/
  | char (c : Char) (rest : List Char)
  /-- A surrogate without a partner, and the text after it. -/
  | unpaired (rest : List Char)
  /-- An escape that breaks off. -/
  | cut (b : Break)

/-- The escape after `\u`. -/
def readEscape (s : List Char) : Escape :=
  match readUnit s with
  | .error b => .cut b
  | .ok (high, rest) =>
    if 0xDC00 ≤ high && high ≤ 0xDFFF then .unpaired rest
    else if 0xD800 ≤ high && high ≤ 0xDBFF then
      match rest with
      | [] => .cut .ended
      | ['\\'] => .cut .ended
      | '\\' :: 'u' :: rest' =>
        match readUnit rest' with
        | .error b => .cut b
        | .ok (low, rest'') =>
          if 0xDC00 ≤ low && low ≤ 0xDFFF then
            .char (Char.ofNat (0x10000 + (high - 0xD800) * 0x400 + (low - 0xDC00))) rest''
          else .unpaired rest
      | _ => .unpaired rest
    else .char (Char.ofNat high) rest

/-- The character of a one-letter escape. -/
def simpleEscape? (c : Char) : Option Char :=
  if c = '"' || c = '\\' || c = '/' then some c
  else if c = 'b' then some '\x08'
  else if c = 'f' then some '\x0c'
  else if c = 'n' then some '\n'
  else if c = 'r' then some '\r'
  else if c = 't' then some '\t'
  else none

/-- The text after a surrogate without a partner, read only for its end. -/
def skipText : Nat → List Char → Option Break × List Char
  | 0, _ => (some .ended, [])
  | _ + 1, [] => (some .ended, [])
  | fuel + 1, c :: rest =>
    if c = '"' then (none, rest)
    else if c.toNat < 0x20 then (some .malformed, c :: rest)
    else if c = '\\' then
      match rest with
      | [] => (some .ended, [])
      | 'u' :: rest' =>
        match readUnit rest' with
        | .error b => (some b, rest')
        | .ok (_, rest'') => skipText fuel rest''
      | e :: rest' =>
        if (simpleEscape? e).isSome then skipText fuel rest' else (some .malformed, rest)
    else skipText fuel rest

/-- A text after its quotation mark; `done` are the characters so far, in reverse. -/
def readText : Nat → List Char → List Char → Passage × List Char
  | 0, _, _ => (.cut .ended, [])
  | _ + 1, _, [] => (.cut .ended, [])
  | fuel + 1, done, c :: rest =>
    if c = '"' then (.plain (String.ofList done.reverse), rest)
    else if c.toNat < 0x20 then (.cut .malformed, c :: rest)
    else if c = '\\' then
      match rest with
      | [] => (.cut .ended, [])
      | 'u' :: rest' =>
        match readEscape rest' with
        | .char d rest'' => readText fuel (d :: done) rest''
        | .cut b => (.cut b, rest')
        | .unpaired rest'' =>
          let (stop, rest''') := skipText fuel rest''
          (.unpaired stop, rest''')
      | e :: rest' =>
        match simpleEscape? e with
        | some d => readText fuel (d :: done) rest'
        | none => (.cut .malformed, rest)
    else readText fuel (c :: done) rest

/-- What breaks a text when it is skipped. -/
def Passage.skip : Passage → Option Break
  | .plain _ => none
  | .unpaired stop => stop
  | .cut b => some b

/-! ### Values -/

/-- A word such as `null`, of which the first letter has been seen. -/
def readWord (word : List Char) (node : Node) : List Char → Step
  | rest => match word, rest with
    | [], rest => (node, rest)
    | _ :: _, [] => (.broken .ended .ended, [])
    | w :: ws, c :: cs =>
      if w = c then readWord ws node cs else (.broken .malformed .malformed, c :: cs)

/-- Whether the text of a node has no break, so that something may follow it. -/
def Node.isClosed : Node → Bool
  | .text p => p.skip.isNone
  | .array _ stop => stop.isNone
  | .object _ stop => stop.isNone
  | .broken _ _ => false
  | _ => true

mutual

/-- The value at the start of a text. -/
def readValue : Nat → List Char → Step
  | 0, _ => (.broken .ended .ended, [])
  | fuel + 1, s =>
    match skipSpace s with
    | [] => (.broken .ended .ended, [])
    | c :: rest =>
      if c = 'n' then readWord "ull".toList .null rest
      else if c = 't' then readWord "rue".toList (.bool true) rest
      else if c = 'f' then readWord "alse".toList (.bool false) rest
      else if c = '"' then
        let (p, rest') := readText (rest.length + 1) [] rest
        (.text p, rest')
      else if c = '-' then readNumber true rest
      else if c.isDigit then readNumber false (c :: rest)
      else if c = '[' then
        match skipSpace rest with
        | [] => (.array [] (some .ended), [])
        | ']' :: rest' => (.array [] none, rest')
        | s' =>
          let (items, stop, rest') := readItems fuel s'
          (.array items stop, rest')
      else if c = '\x7b' then
        match skipSpace rest with
        | [] => (.object [] (some .ended), [])
        | '\x7d' :: rest' => (.object [] none, rest')
        | s' =>
          let (fields, stop, rest') := readFields fuel s'
          (.object fields stop, rest')
      else (.broken .malformed .malformed, c :: rest)

/-- The items of an array from the next item on. -/
def readItems : Nat → List Char → List Node × Option Break × List Char
  | 0, _ => ([], some .ended, [])
  | fuel + 1, s =>
    let (item, rest) := readValue fuel s
    if item.isClosed then
      match skipSpace rest with
      | ',' :: rest' =>
        let (items, stop, rest'') := readItems fuel rest'
        (item :: items, stop, rest'')
      | ']' :: rest' => ([item], none, rest')
      | rest' => ([item], some (breakAt rest'), rest')
    else ([item], none, [])

/-- The fields of an object from the next field on. -/
def readFields : Nat → List Char → List (Passage × Node) × Option Break × List Char
  | 0, _ => ([], some .ended, [])
  | fuel + 1, s =>
    match skipSpace s with
    | '"' :: s' =>
      let (name, rest) := readText (s'.length + 1) [] s'
      if name.skip.isSome then ([(name, .broken .ended .ended)], none, [])
      else match skipSpace rest with
        | ':' :: rest' =>
          let (value, rest'') := readValue fuel rest'
          if value.isClosed then
            match skipSpace rest'' with
            | ',' :: rest''' =>
              let (fields, stop, end') := readFields fuel rest'''
              ((name, value) :: fields, stop, end')
            | '\x7d' :: rest''' => ([(name, value)], none, rest''')
            | rest''' => ([(name, value)], some (breakAt rest'''), rest''')
          else ([(name, value)], none, [])
        | rest' => ([(name, .broken (breakAt rest') (breakAt rest'))], none, [])
    | s' => ([], some (breakAt s'), s')

end

/-- The shape of a text. -/
def Document.ofText (s : String) : Document :=
  let cs := s.toList
  let (root, rest) := readValue (2 * cs.length + 2) cs
  ⟨root, root.isClosed && !(skipSpace rest).isEmpty⟩

/-! ### Skipping -/

mutual

/-- What skipping a node runs into. -/
def Node.skip : Node → Option Break
  | .broken _ b => some b
  | .text p => p.skip
  | .array items stop => (skipItems items).or stop
  | .object fields stop => (skipFields fields).or stop
  | _ => none

/-- What skipping some items runs into. -/
def skipItems : List Node → Option Break
  | [] => none
  | item :: items => item.skip.or (skipItems items)

/-- What skipping some fields runs into. -/
def skipFields : List (Passage × Node) → Option Break
  | [] => none
  | (name, value) :: fields => (name.skip.or value.skip).or (skipFields fields)

end

/-! ### Values already in memory -/

mutual

/-- The shape of a value. -/
def Node.ofJson : Json → Node
  | .null => .null
  | .bool b => .bool b
  | .int n => .int n
  | .real x => .real x
  | .text s => .text (.plain s)
  | .array items => .array (nodesOfItems items) none
  | .object fields => .object (nodesOfFields fields) none

/-- The shapes of the items of an array. -/
def nodesOfItems : List Json → List Node
  | [] => []
  | item :: items => .ofJson item :: nodesOfItems items

/-- The shapes of the fields of an object. -/
def nodesOfFields : List (String × Json) → List (Passage × Node)
  | [] => []
  | (name, value) :: fields => (.plain name, .ofJson value) :: nodesOfFields fields

end

end VideoPosters.Json
