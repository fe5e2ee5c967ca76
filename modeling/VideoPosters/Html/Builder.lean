import VideoPosters.Html.Stack

/-!
# Building a tree

What is remembered while a document is read, and the steps from which the rules of the
modes are made.

## Main definitions

* `Html.Mode` — where in the document the reader is.
* `Html.Builder`, `Html.Build` — what is remembered, and steps that change it.
* `Html.Build.insert` — a new element.
* `Html.Build.restoreFormatting` — formatting that was closed too early goes on.
* `Html.Build.endFormatting` — the end of formatting within which blocks were opened.
-/

namespace VideoPosters.Html

/-- Where in the document the reader is. -/
inductive Mode where
  | initial
  | beforeHtml
  | beforeHead
  | inHead
  | afterHead
  | inBody
  | text
  | inTable
  | inTableText
  | inCaption
  | inColumnGroup
  | inTableBody
  | inRow
  | inCell
  | inSelect
  | inSelectInTable
  | inTemplate
  | afterBody
  | inFrameset
  | afterFrameset
  | afterAfterBody
  | afterAfterFrameset
  deriving DecidableEq, Repr, Inhabited

/-- Formatting that goes on until its end tag. -/
inductive Formatting where
  /-- Formatting before the marker does not go on behind it. -/
  | marker
  /-- A formatting element and its tag. -/
  | element (e : Open) (tag : Tag)
  deriving Repr, Inhabited

/-- What is remembered while a document is read. -/
structure Builder where
  draft : Draft
  /-- The open elements. -/
  stack : Stack
  /-- The formatting that goes on, the latest first. -/
  formatting : List Formatting
  mode : Mode
  /-- The mode to go back to after a text. -/
  savedMode : Mode
  /-- The modes of the open templates, innermost first. -/
  templateModes : List Mode
  /-- How the lexer reads what follows. -/
  content : Content
  /-- Whether there was a head. -/
  head : Option Open
  /-- The open form. -/
  form : Option Open
  /-- Whether a frameset may still replace the body. -/
  framesetAllowed : Bool
  /-- Whether a line feed that comes next is left out. -/
  dropsLineFeed : Bool
  /-- Whether content of a table is put in front of it. -/
  fosters : Bool
  /-- Whether the document follows the conventions of an earlier time. -/
  isLegacy : Bool
  /-- Text within a table that has not been put anywhere yet, the latest first. -/
  pending : List (Bool × List Char)
  deriving Repr, Inhabited

/-- The state before the first token. -/
def Builder.start : Builder where
  draft := Draft.empty
  stack := []
  formatting := []
  mode := .initial
  savedMode := .initial
  templateModes := []
  content := .markup
  head := none
  form := none
  framesetAllowed := true
  dropsLineFeed := false
  fosters := false
  isLegacy := false
  pending := []

/-- The innermost element belongs to another vocabulary than HTML. -/
def Builder.isForeign (b : Builder) : Bool :=
  match b.stack with
  | e :: _ => e.ns ≠ .html
  | [] => false

/-- Steps that change what is remembered. -/
abbrev Build := StateM Builder

namespace Build

/-! ### The stack -/

/-- Changes the stack. -/
def onStack (f : Stack → Stack) : Build Unit := modify fun b => { b with stack := f b.stack }

/-- Closes the innermost element. -/
def pop : Build Unit := onStack (·.drop 1)

/-- Closes elements up to and including the first of a name. -/
def closeUpTo (name : String) : Build Unit := onStack (Stack.closeUpTo (Open.isA name))

/-- Closes elements whose end tags may be left out. -/
def closeImplied : Build Unit := onStack (Stack.closeImplied Stack.impliedEnds "")

/-- Closes elements whose end tags may be left out, but none of a name. -/
def closeImpliedBut (name : String) : Build Unit :=
  onStack (Stack.closeImplied Stack.impliedEnds name)

/-- Closes an element of a name and all that is open within it. -/
def close (name : String) : Build Unit := do closeImpliedBut name; closeUpTo name

/-- Closes the open paragraph, if there is one. -/
def closeParagraph : Build Unit := do
  if (← get).stack.hasInScope Stack.isButtonLimit "p" then close "p"

/-- Goes to a mode. -/
def goTo (mode : Mode) : Build Unit := modify fun b => { b with mode := mode }

/-- From here on no frameset may replace the body. -/
def forbidFrameset : Build Unit := modify fun b => { b with framesetAllowed := false }

/-- A line feed that comes next is left out. -/
def dropLineFeed : Build Unit := modify fun b => { b with dropsLineFeed := true }

/-! ### Inserting -/

/-- Where to put what does not belong in a table: in front of the table, within the
innermost template, or within the root. -/
def fosterPlace (d : Draft) : Stack → Draft.Place
  | [] => .within 0
  | [root] => .within root.id
  | e :: outer :: rest =>
    if e.isA "template" then .within e.id
    else if e.isA "table" then
      if (d.parent? e.id).isSome then .before e.id else .within outer.id
    else fosterPlace d (outer :: rest)

/-- The elements of a table that hold no content of their own. -/
def tableParts : List String := ["table", "tbody", "tfoot", "thead", "tr"]

/-- Where to put what comes next into an element. -/
def placeWithin (e : Open) (b : Builder) : Draft.Place :=
  if b.fosters && e.isOneOf tableParts then fosterPlace b.draft b.stack else .within e.id

/-- Where to put what comes next. -/
def placeHere (b : Builder) : Draft.Place :=
  match b.stack with
  | e :: _ => placeWithin e b
  | [] => .within 0

/-- A new element without place. -/
def create (ns : Namespace) (tag : Tag) : Build Open := do
  let b ← get
  let (id, draft) := b.draft.create (.element tag.name tag.attributes)
  set { b with draft }
  return ⟨id, ns, tag.name⟩

/-- A new element, which stays open. -/
def insertIn (ns : Namespace) (tag : Tag) : Build Open := do
  let e ← create ns tag
  modify fun b => { b with draft := b.draft.insertAt (placeHere b) e.id, stack := e :: b.stack }
  return e

/-- A new HTML element, which stays open. -/
def insert (tag : Tag) : Build Open := insertIn .html tag

/-- A new HTML element that no tag stands for, which stays open. -/
def insertImplied (name : String) : Build Open := insert ⟨name, [], false⟩

/-- A new HTML element, which is closed at once. -/
def insertClosed (tag : Tag) : Build Unit := do let _ ← insert tag; pop

/-- The text that comes next. -/
def insertText (run : List Char) : Build Unit :=
  modify fun b => { b with draft := b.draft.addText (placeHere b) run }

/-- A comment. -/
def insertComment : Build Unit := modify fun b =>
  let (i, d) := b.draft.create .comment
  { b with draft := d.insertAt (placeHere b) i }

/-- A comment that belongs to the document or to its root. -/
def insertCommentIn (parent : Nat) : Build Unit := modify fun b =>
  let (i, d) := b.draft.create .comment
  { b with draft := d.append parent i }

/-- The root element. -/
def insertRoot (attributes : List Attribute) : Build Unit := do
  let e ← create .html ⟨"html", attributes, false⟩
  modify fun b => { b with draft := b.draft.append 0 e.id, stack := [e] }

/-- A new element with text up to its end tag. -/
def insertTextElement (tag : Tag) (content : Content) : Build Unit := do
  let _ ← insert tag
  modify fun b => { b with savedMode := b.mode, mode := .text, content }

/-! ### Formatting -/

/-- Ends the formatting since the last marker, and the marker. -/
def endMarked : Build Unit := modify fun b =>
  let isMarker : Formatting → Bool
    | .marker => true
    | _ => false
  { b with formatting := (b.formatting.dropWhile (!isMarker ·)).drop 1 }

/-- Sets a marker. -/
def mark : Build Unit := modify fun b => { b with formatting := .marker :: b.formatting }


/-- Whether a formatting belongs to the element of a number. -/
def isFormattingOf (id : Nat) : Formatting → Bool
  | .element e _ => e.id = id
  | .marker => false

/-- Forgets the formatting of an element. -/
def forget (id : Nat) : Build Unit :=
  modify fun b => { b with formatting := b.formatting.filter (!isFormattingOf id ·) }

/-- The formatting since the last marker, the latest first. -/
def sinceMarker : List Formatting → List (Open × Tag)
  | .element e tag :: rest => (e, tag) :: sinceMarker rest
  | _ => []

/-- Whether two tags have the same name and, in any order, the same attributes. -/
def isSameTag (a b : Tag) : Bool :=
  a.name = b.name && a.attributes.length = b.attributes.length &&
    a.attributes.all b.attributes.contains

/-- A new formatting element.  Of four alike the earliest does not go on. -/
def insertFormatting (tag : Tag) : Build Unit := do
  let alike := (sinceMarker (← get).formatting).filter fun (_, t) => isSameTag tag t
  if 3 ≤ alike.length then
    if let some (earliest, _) := alike.getLast? then forget earliest.id
  let e ← insert tag
  modify fun b => { b with formatting := .element e tag :: b.formatting }

/-- Opens the given formatting again, the last of the list first, and returns it with its
new elements. -/
def reopen : List (Open × Tag) → Build (List Formatting)
  | [] => return []
  | (_, tag) :: outer => do
    let outer ← reopen outer
    let e ← insert tag
    return .element e tag :: outer

/-- Formatting that goes on but is closed is opened again. -/
def restoreFormatting : Build Unit := do
  let b ← get
  let closed := (sinceMarker b.formatting).takeWhile fun (e, _) =>
    !b.stack.any (·.id = e.id)
  let again ← reopen closed
  modify fun s => { s with formatting := again ++ b.formatting.drop closed.length }

/-! ### The end of formatting -/

/-- The end tag of an element that has no rule of its own: it closes the innermost element
of its name, unless a special element comes before. -/
def endOrdinary (name : String) : Build Unit := do
  let stack := (← get).stack
  match stack.find? fun e => e.isA name || e.isSpecial with
  | some e => if e.isA name then onStack fun s => s.dropWhile (·.id ≠ e.id) |>.drop 1
  | none => pure ()

/-- The elements between a block and the formatting around it are made anew around what
moves out, those that no longer go on are closed.  `between` are the elements outwards from
the block, `last` is what was moved last, `count` the elements met before, and `behind` the
element whose formatting the new one comes after.  Returns what was moved last and the
element to come after. -/
def rebuildBetween (block : Nat) (count last : Nat) (behind : Option Nat) :
    List Open → Build (Nat × Option Nat)
  | [] => return (last, behind)
  | e :: outer => do
    let b ← get
    let tag? := b.formatting.findSome? fun
      | .element f tag => if f.id = e.id then some tag else none
      | .marker => none
    match tag?, decide (count < 3) with
    | some tag, true =>
      let new ← create .html tag
      modify fun b => { b with
        stack := b.stack.map fun f => if f.id = e.id then new else f
        formatting := b.formatting.map fun f =>
          if isFormattingOf e.id f then .element new tag else f
        draft := (b.draft.detach last).append new.id last }
      let behind := if last = block then some new.id else behind
      rebuildBetween block (count + 1) new.id behind outer
    | _, _ =>
      forget e.id
      onStack (Stack.remove e.id)
      rebuildBetween block (count + 1) last behind outer

/-- Puts a formatting after, that is later than, that of an element. -/
def insertLater (id : Nat) (f : Formatting) : List Formatting → List Formatting
  | [] => []
  | g :: rest =>
    if isFormattingOf id g then f :: g :: rest else g :: insertLater id f rest

/-- Puts an element inside another of the stack. -/
def insertInside (id : Nat) (e : Open) : Stack → Stack
  | [] => []
  | f :: rest => if f.id = id then e :: f :: rest else f :: insertInside id e rest

/-- One round of the end of formatting: blocks within the formatting move out of it, and
their content is formatted instead.  Returns whether there may be more to do. -/
def endFormattingOnce (name : String) : Build Bool := do
  let b ← get
  match (sinceMarker b.formatting).find? fun (_, tag) => tag.name = name with
  | none => endOrdinary name; return false
  | some (e, tag) =>
    match b.stack.place? e.id with
    | none => forget e.id; return false
    | some depth =>
      if !b.stack.inScope Stack.isLimit (·.id = e.id) then return false
      else
        let inner := b.stack.take depth
        let around := b.stack.drop (depth + 1)
        -- The outermost special element within the formatting.
        match inner.reverse.find? Open.isSpecial, around with
        | some block, ancestor :: _ =>
          let between := (inner.dropWhile (·.id ≠ block.id)).drop 1
          let (last, behind) ← rebuildBetween block.id 0 block.id none between
          modify fun b => { b with draft := b.draft.detach last }
          modify fun b => { b with draft := b.draft.insertAt (placeWithin ancestor b) last }
          let new ← create .html tag
          modify fun b =>
            let draft := (b.draft.moveChildren block.id new.id).append block.id new.id
            let entry := Formatting.element new tag
            let formatting := match behind with
              | none => b.formatting.map fun f => if isFormattingOf e.id f then entry else f
              | some id =>
                (insertLater id entry b.formatting).filter (!isFormattingOf e.id ·)
            { b with
              draft, formatting, stack := insertInside block.id new (b.stack.remove e.id) }
          return true
        | _, _ =>
          onStack (·.drop (depth + 1))
          forget e.id
          return false

/-- Rounds of the end of formatting, at most so many. -/
def endFormattingRounds (name : String) : Nat → Build Unit
  | 0 => return
  | rounds + 1 => do if ← endFormattingOnce name then endFormattingRounds name rounds

/-- The end of formatting: after eight rounds what is left stays as it is. -/
def endFormatting (name : String) : Build Unit := do
  let b ← get
  match b.stack with
  | e :: _ =>
    if e.isA name && !b.formatting.any (isFormattingOf e.id) then pop
    else endFormattingRounds name 8
  | [] => endFormattingRounds name 8

/-! ### Modes -/

/-- The mode for a selection within the given elements. -/
def selectMode : Stack → Mode
  | [] => .inSelect
  | e :: outer =>
    if e.isA "template" then .inSelect
    else if e.isA "table" then .inSelectInTable
    else selectMode outer

/-- The mode that the open elements ask for. -/
def modeOf (b : Builder) : Stack → Mode
  | [] => .inBody
  | e :: outer =>
    if e.ns ≠ .html then modeOf b outer
    else match e.name with
      | "select" => selectMode outer
      | "td" | "th" => if outer.isEmpty then modeOf b outer else .inCell
      | "tr" => .inRow
      | "tbody" | "thead" | "tfoot" => .inTableBody
      | "caption" => .inCaption
      | "colgroup" => .inColumnGroup
      | "table" => .inTable
      | "template" => b.templateModes.head?.getD .inTemplate
      | "head" => if outer.isEmpty then modeOf b outer else .inHead
      | "body" => .inBody
      | "frameset" => .inFrameset
      | "html" => if b.head.isNone then .beforeHead else .afterHead
      | _ => modeOf b outer

/-- Goes to the mode that the open elements ask for. -/
def resetMode : Build Unit := modify fun b => { b with mode := modeOf b b.stack }

end Build

end VideoPosters.Html
