import VideoPosters.Json.Value
import VideoPosters.Text.Letter

/-!
# Templates

A template is a sequence of tokens: literal text, and paths whose values are inserted.
Rendering walks the tokens against a JSON value; inserted values are never read as
template text.

## Main definitions

* `Template.Segment` — one step of a path: a key of an object or a place of an array.
* `Template.Token` — a literal or an interpolated path.
* `Template.lookup?` — the value at a path.
* `Template.inserted` — the text a value is inserted as.
* `Template.render` — the text of a template against a value.
-/

namespace VideoPosters

namespace Template

/-- One step of a path. -/
inductive Segment where
  /-- The member of an object under a key. -/
  | key (name : List Char)
  /-- The item at a place of an array. -/
  | index (n : Nat)
  deriving DecidableEq, Repr

/-- A piece of a compiled template. -/
inductive Token where
  /-- Text that stands for itself. -/
  | literal (text : List Char)
  /-- The path of a value to be inserted. -/
  | interpolate (path : List Segment)
  deriving DecidableEq, Repr

/-- A step into a value. -/
def Segment.step? : Segment → Json → Option Json
  | .key name, value => value.get? (String.ofList name)
  | .index n, value => value.at? n

/-- The value at a path. -/
def lookup? (value : Json) : List Segment → Option Json
  | [] => some value
  | segment :: path => (segment.step? value).bind (lookup? · path)

mutual

/-- The text a value is inserted as: strings as they are, numbers and booleans in their
written form, arrays with commas between their items, objects as JSON, null as nothing. -/
def inserted : Json → List Char
  | .null => []
  | .text s => s.toList
  | .array items => insertedItems items
  | value => value.render

/-- The items of an array with commas between them. -/
def insertedItems : List Json → List Char
  | [] => []
  | [item] => inserted item
  | item :: next :: items => inserted item ++ ',' :: insertedItems (next :: items)

end

/-- The text inserted for a path: nothing if it leads nowhere. -/
def insertedAt (value : Json) (path : List Segment) : List Char :=
  match lookup? value path with
  | some found => inserted found
  | none => []

/-- The text of a token against a value. -/
def Token.render (value : Json) : Token → List Char
  | .literal text => text
  | .interpolate path => insertedAt value path

/-- The text of a template against a value. -/
def render (tokens : List Token) (value : Json) : List Char :=
  tokens.flatMap (Token.render value)

@[simp] theorem render_nil (value : Json) : render [] value = [] := rfl

@[simp] theorem render_cons (token : Token) (tokens : List Token) (value : Json) :
    render (token :: tokens) value = token.render value ++ render tokens value := rfl

/-- Rendering distributes over concatenation of templates. -/
theorem render_append (ts us : List Token) (value : Json) :
    render (ts ++ us) value = render ts value ++ render us value := by
  simp [render]

@[simp] theorem lookup?_nil (value : Json) : lookup? value [] = some value := rfl

@[simp] theorem lookup?_cons (value : Json) (segment : Segment) (path : List Segment) :
    lookup? value (segment :: path) = (segment.step? value).bind (lookup? · path) := rfl

end Template

end VideoPosters
