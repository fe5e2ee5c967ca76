import VideoPosters.Html.Tree

/-!
# Trees under construction

While a document is read its nodes move: they are entries of an array, linked by their
numbers.  Entry zero is the document itself.

## Main definitions

* `Html.Namespace`, `Html.Draft.Entry`, `Html.Draft` — the entries.
* `Html.Draft.append`, `Html.Draft.insertBefore`, `Html.Draft.detach` — moving nodes.
* `Html.Draft.addText` — text joins the text before it.
* `Html.Draft.toNodes` — the finished trees.
* `Html.Draft.element?`, `Html.Draft.select` — the finished elements, in the order in which they
  were made.
-/

namespace VideoPosters.Html

/-- The vocabularies that an element can belong to. -/
inductive Namespace where
  | html
  | svg
  | math
  deriving DecidableEq, Repr, Inhabited

namespace Draft

/-- What an entry is. -/
inductive Kind where
  | document
  | element (name : String) (attributes : List Attribute)
  | text (s : String)
  | comment
  deriving Repr, Inhabited

/-- A node of a tree under construction. -/
structure Entry where
  kind : Kind
  parent : Option Nat
  children : List Nat
  deriving Repr, Inhabited

end Draft

/-- A tree under construction. -/
abbrev Draft := Array Draft.Entry

namespace Draft

/-- The tree of an empty document. -/
def empty : Draft := #[⟨.document, none, []⟩]

/-- Where a node is put. -/
inductive Place where
  /-- Behind the last child of a node. -/
  | within (parent : Nat)
  /-- In front of a node. -/
  | before (sibling : Nat)
  deriving DecidableEq, Repr

/-- A new node without place, and its number. -/
def create (d : Draft) (kind : Kind) : Nat × Draft := (d.size, d.push ⟨kind, none, []⟩)

/-- The parent of a node. -/
def parent? (d : Draft) (i : Nat) : Option Nat := d[i]?.bind Entry.parent

/-- The children of a node. -/
def children (d : Draft) (i : Nat) : List Nat := (d[i]?.map Entry.children).getD []

/-- Takes a node out of its place. -/
def detach (d : Draft) (i : Nat) : Draft :=
  match d.parent? i with
  | none => d
  | some p =>
    (d.modify p fun e => { e with children := e.children.filter (· ≠ i) }).modify i
      fun e => { e with parent := none }

/-- Puts a node behind the last child of another. -/
def append (d : Draft) (parent i : Nat) : Draft :=
  ((d.detach i).modify parent fun e => { e with children := e.children ++ [i] }).modify i
    fun e => { e with parent := some parent }

/-- A list with an item in front of another. -/
def insertInFront (sibling i : Nat) : List Nat → List Nat
  | [] => []
  | j :: rest => if j = sibling then i :: j :: rest else j :: insertInFront sibling i rest

/-- Puts a node in front of another that has a parent. -/
def insertBefore (d : Draft) (sibling i : Nat) : Draft :=
  let d := d.detach i
  match d.parent? sibling with
  | none => d
  | some p =>
    (d.modify p fun e => { e with children := insertInFront sibling i e.children }).modify i
      fun e => { e with parent := some p }

/-- Puts a node at a place. -/
def insertAt (d : Draft) (place : Place) (i : Nat) : Draft :=
  match place with
  | .within parent => d.append parent i
  | .before sibling => d.insertBefore sibling i

/-- The item in front of another. -/
def inFrontOf? (sibling : Nat) : List Nat → Option Nat
  | [] => none
  | [_] => none
  | i :: j :: rest => if j = sibling then some i else inFrontOf? sibling (j :: rest)

/-- The node in front of a place. -/
def neighbour? (d : Draft) : Place → Option Nat
  | .within parent => (d.children parent).getLast?
  | .before sibling => (d.parent? sibling).bind fun p => inFrontOf? sibling (d.children p)

/-- Puts text at a place: text in front of the place goes on. -/
def addText (d : Draft) (place : Place) (run : List Char) : Draft :=
  match d.neighbour? place with
  | some i =>
    match d[i]? with
    | some ⟨.text s, parent, children⟩ =>
      d.set! i ⟨.text (s ++ String.ofList run), parent, children⟩
    | _ => let (j, d) := d.create (.text (String.ofList run)); d.insertAt place j
  | none => let (j, d) := d.create (.text (String.ofList run)); d.insertAt place j

/-- Moves all children of a node behind those of another. -/
def moveChildren (d : Draft) (source target : Nat) : Draft :=
  (d.children source).foldl (fun d i => d.append target i) d

/-- Adds the attributes that an element does not have yet. -/
def addMissing (d : Draft) (i : Nat) (attributes : List Attribute) : Draft :=
  d.modify i fun e =>
    match e.kind with
    | .element name present =>
      let missing := attributes.filter fun a => !present.any (·.1 = a.1)
      { e with kind := .element name (present ++ missing) }
    | _ => e

/-- The trees below some nodes.  The fuel bounds the depth. -/
def toNodes (d : Draft) : Nat → List Nat → List Node
  | 0, _ => []
  | fuel + 1, numbers =>
    numbers.filterMap fun i =>
      match (d[i]? : Option Entry) with
      | some ⟨.element name attributes, _, children⟩ =>
        some (.element name attributes (d.toNodes fuel children))
      | some ⟨.text s, _, _⟩ => some (.text s)
      | some ⟨.comment, _, _⟩ => some .comment
      | _ => none

/-- Whether an entry is an element of a name. -/
def Entry.isNamed (name : String) (e : Entry) : Bool :=
  match e.kind with
  | .element n _ => n = name
  | _ => false

/-- The element of a number with all that is below it, if it has a place.  What it is put in need
not belong to the document any more. -/
def element? (d : Draft) (i : Nat) : Option Node :=
  match (d[i]? : Option Entry) with
  | some ⟨.element name attributes, some _, children⟩ =>
    some (.element name attributes (d.toNodes d.size children))
  | _ => none

/-- The elements of a name that have a place, in the order in which they were made. -/
def select (d : Draft) (name : String) : List Node :=
  ((List.range d.size).filter fun i => d[i]?.any (Entry.isNamed name)).filterMap d.element?

end Draft

end VideoPosters.Html
