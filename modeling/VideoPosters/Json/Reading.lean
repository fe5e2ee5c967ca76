import VideoPosters.Json.Number

/-!
# Reading a document against an expected form

A reader compares a node with a form from left to right and reports the first thing
wrong: a mismatch as soon as it shows, a missing field where its object ends, a break
where it stands.

Whoever reads has room for a number of arrays and objects within each other: a text may
nest 127 of them, a value in memory as many as it likes.  Skipped values may be nested at
will.

## Main definitions

* `Reader` — a way to read a node, given how many arrays and objects may be entered.
* `string`, `word32`, `optional`, `sequenceOf`, `entriesOf`, `anyValue`, `variantOf` — the
  readers of the plain forms.
* `foldFields`, `foldItems` — the fields of an object and the items of an array in turn.
* `Reader.ofText`, `Reader.ofJson` — read a whole document, a value in memory.
-/

namespace VideoPosters.Json

/-- A way to read a node in which at most `room` arrays and objects are entered within each
other. -/
abbrev Reader (α : Type) := (room : Nat) → Node → Except ReadError α

/-- How deep arrays and objects of a text may be nested. -/
def depthLimit : Nat := 127

/-- A break met while reading. -/
def stopAt {α : Type} (b : Break) : Except ReadError α := .error (.broken b)

/-- A value of another form than expected. -/
def mismatch {α : Type} (m : Mismatch) : Except ReadError α := .error (.mismatch m)

/-- The break, if there is one. -/
def checkBreak : Option Break → Except ReadError Unit
  | none => .ok ()
  | some b => stopAt b

/-- Skips a node that nothing asks for. -/
def skip (node : Node) : Except ReadError Unit := checkBreak node.skip

/-- The characters of a text. -/
def Passage.read : Passage → Except ReadError String
  | .plain s => .ok s
  | .unpaired _ => stopAt .malformed
  | .cut b => stopAt b

/-- The value of a written number. -/
def Numeral.read (n : Numeral) : Except ReadError Json :=
  match n.value? with
  | some v => .ok v
  | none => stopAt .malformed

/-- The shape of a node that is not of the expected form. -/
def Node.found : Node → Except ReadError Found
  | .null => .ok .null
  | .bool b => .ok (.bool b)
  | .int n => .ok (.int n)
  | .real x => .ok (.real x)
  | .number n => n.read.map fun
    | .int i => .int i
    | .real x => .real x
    | _ => .null
  | .text p => p.read.map .text
  | .array _ _ => .ok .sequence
  | .object _ _ => .ok .map
  | .broken b _ => stopAt b

/-- Rejects a node that is not of the expected form. -/
def Node.reject {α : Type} (node : Node) (expected : String) : Except ReadError α := do
  mismatch (.wrongType (← node.found) expected)

/-- Enters an array or an object, unless it is nested too deep. -/
def enter (room : Nat) : Except ReadError Unit :=
  if room = 0 then stopAt .malformed else .ok ()

/-! ### Plain forms -/

/-- Reads a text. -/
def string : Reader String
  | _, .text p => p.read
  | _, node => node.reject "a string"

/-- An integer as an unsigned number of 32 bits. -/
def word32OfInt (n : Int) : Except ReadError Nat :=
  if 0 ≤ n && n < Nat.pow 2 32 then .ok n.toNat else mismatch (.outOfRange n "u32")

/-- Reads an unsigned number of 32 bits. -/
def word32 : Reader Nat
  | _, .int n => word32OfInt n
  | _, .number n => do
    match ← n.read with
    | .int i => word32OfInt i
    | .real x => mismatch (.wrongType (.real x) "u32")
    | _ => stopAt .malformed
  | _, node => node.reject "u32"

/-- Reads a value that may be null. -/
def optional {α : Type} (read : Reader α) : Reader (Option α)
  | _, .null => .ok none
  | room, node => (read room node).map some

/-- Reads each item of an array in turn. -/
def foldItems {σ : Type} (step : σ → Node → Except ReadError σ) :
    σ → List Node → Option Break → Except ReadError σ
  | state, [], stop => do checkBreak stop; .ok state
  | state, item :: items, stop => do foldItems step (← step state item) items stop

/-- Reads each field of an object in turn. -/
def foldFields {σ : Type} (step : σ → String → Node → Except ReadError σ) :
    σ → List (Passage × Node) → Option Break → Except ReadError σ
  | state, [], stop => do checkBreak stop; .ok state
  | state, (name, value) :: fields, stop => do
    foldFields step (← step state (← name.read) value) fields stop

/-- Reads an array of items of one form. -/
def sequenceOf {α : Type} (read : Reader α) : Reader (List α)
  | room, .array items stop => do
    enter room
    let done ← foldItems (fun done item => do .ok ((← read (room - 1) item) :: done)) [] items stop
    .ok done.reverse
  | _, node => node.reject "a sequence"

/-- Reads an object as entries of one form: of two with one name the later counts. -/
def entriesOf {α : Type} (read : Reader α) : Reader (Entries α)
  | room, .object fields stop => do
    enter room
    foldFields (fun entries name value => do
      .ok (entries.insert name (← read (room - 1) value))) [] fields stop
  | _, node => node.reject "a map"

/-- Reads one of the given words. -/
def variantOf (names : List String) : Reader String
  | _, .text p => do
    let name ← p.read
    if names.contains name then .ok name else mismatch (.unknownVariant name names)
  | _, .broken b _ => stopAt b
  | _, _ => stopAt .malformed

/-! ### Any value -/

mutual

/-- Reads any value. -/
def anyValue (room : Nat) : Node → Except ReadError Json
  | .null => .ok .null
  | .bool b => .ok (.bool b)
  | .int n => .ok (.int n)
  | .real x => .ok (.real x)
  | .number n => n.read
  | .text p => p.read.map .text
  | .array items stop => do
    enter room
    .ok (.array (← anyItems (room - 1) items stop))
  | .object fields stop => do
    enter room
    .ok (.object (← anyFields (room - 1) fields stop []))
  | .broken b _ => stopAt b

/-- Reads the items of an array. -/
def anyItems (room : Nat) : List Node → Option Break → Except ReadError (List Json)
  | [], stop => do checkBreak stop; .ok []
  | item :: items, stop => do
    let value ← anyValue room item
    .ok (value :: (← anyItems room items stop))

/-- Reads the fields of an object after the entries before them. -/
def anyFields (room : Nat) : List (Passage × Node) → Option Break → Entries Json →
    Except ReadError (Entries Json)
  | [], stop, entries => do checkBreak stop; .ok entries
  | (name, node) :: fields, stop, entries => do
    let name ← name.read
    let value ← anyValue room node
    anyFields room fields stop (entries.insert name value)

end

/-! ### Records given as arrays -/

/-- The item at the next place of a record given as an array, if the array goes on. -/
def nextItem : List Node → Option Break → Except ReadError (Option (Node × List Node))
  | item :: items, _ => .ok (some (item, items))
  | [], stop => do checkBreak stop; .ok none

/-- The end of a record given as an array: nothing may follow its last place. -/
def endItems : List Node → Option Break → Except ReadError Unit
  | [], stop => checkBreak stop
  | _ :: _, _ => stopAt .malformed

/-! ### Documents -/

/-- Reads a document: nothing but blanks may follow the value. -/
def Reader.ofDocument {α : Type} (read : Reader α) (document : Document) :
    Except ReadError α := do
  let value ← read depthLimit document.root
  if document.trailing then stopAt .malformed else .ok value

/-- Reads a text as a document. -/
def Reader.ofText {α : Type} (read : Reader α) (s : String) : Except ReadError α :=
  Reader.ofDocument read (Document.ofText s)

/-- Reads a value in memory, which may be nested at will. -/
def Reader.ofJson {α : Type} (read : Reader α) (value : Json) : Except ReadError α :=
  read value.height (Node.ofJson value)

end VideoPosters.Json
