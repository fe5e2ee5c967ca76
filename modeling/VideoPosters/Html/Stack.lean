import VideoPosters.Html.Draft

/-!
# Open elements

The elements that are being read form a stack, innermost first.  Most questions about it
are one walk outwards that looks for an element and gives up at another.

## Main definitions

* `Html.Open` — an open element.
* `Html.Stack.inScope` — the walk.
* `Html.Stack.closeUpTo`, `Html.Stack.closeImplied` — closing elements.
-/

namespace VideoPosters.Html

/-- An open element: its number, its vocabulary and its name. -/
structure Open where
  id : Nat
  ns : Namespace
  name : String
  deriving DecidableEq, Repr, Inhabited

namespace Open

/-- Whether an element is one of the given HTML elements. -/
def isOneOf (names : List String) (e : Open) : Bool := e.ns = .html && names.contains e.name

/-- Whether an element is the HTML element of a name. -/
def isA (name : String) (e : Open) : Bool := e.ns = .html && e.name = name

/-- Elements of mathematics whose content is text. -/
def isMathText (e : Open) : Bool :=
  e.ns = .math && ["mi", "mo", "mn", "ms", "mtext"].contains e.name

/-- Elements of graphics whose content is HTML. -/
def isSvgHtml (e : Open) : Bool :=
  e.ns = .svg && ["foreignobject", "desc", "title"].contains e.name

/-- Elements that delimit the effect of what is within them. -/
def isSpecial (e : Open) : Bool :=
  e.isOneOf ["address", "applet", "area", "article", "aside", "base", "basefont", "bgsound",
    "blockquote", "body", "br", "button", "caption", "center", "col", "colgroup", "dd",
    "details", "dir", "div", "dl", "dt", "embed", "fieldset", "figcaption", "figure", "footer",
    "form", "frame", "frameset", "h1", "h2", "h3", "h4", "h5", "h6", "head", "header",
    "hgroup", "hr", "html", "iframe", "img", "input", "isindex", "li", "link", "listing",
    "main", "marquee", "menu", "meta", "nav", "noembed", "noframes", "noscript", "object",
    "ol", "p", "param", "plaintext", "pre", "script", "section", "select", "source", "style",
    "summary", "table", "tbody", "td", "template", "textarea", "tfoot", "th", "thead", "title",
    "tr", "track", "ul", "wbr", "xmp"]

/-- Headings. -/
def isHeading (e : Open) : Bool := e.isOneOf ["h1", "h2", "h3", "h4", "h5", "h6"]

end Open

/-- The open elements, innermost first. -/
abbrev Stack := List Open

namespace Stack

/-! ### Scopes -/

/-- Whether the walk outwards meets a target before, or at, a limit. -/
def inScope (isLimit isTarget : Open → Bool) : Stack → Bool
  | [] => false
  | e :: rest => isTarget e || (!isLimit e && inScope isLimit isTarget rest)

/-- The limits of most scopes. -/
def isLimit (e : Open) : Bool :=
  e.isOneOf ["applet", "caption", "html", "table", "td", "th", "marquee", "object",
    "template"] || e.isMathText || e.isSvgHtml

/-- The limits within which an item of a list is looked for. -/
def isListLimit (e : Open) : Bool := isLimit e || e.isOneOf ["ol", "ul"]

/-- The limits within which a paragraph is looked for. -/
def isButtonLimit (e : Open) : Bool := isLimit e || e.isA "button"

/-- The limits within which a part of a table is looked for. -/
def isTableLimit (e : Open) : Bool := e.isOneOf ["html", "table", "template"]

/-- The limits within which a selection is looked for. -/
def isSelectLimit (e : Open) : Bool := !e.isOneOf ["optgroup", "option"]

/-- Whether an HTML element of a name is in scope. -/
def hasInScope (isLimit : Open → Bool) (name : String) (stack : Stack) : Bool :=
  stack.inScope isLimit (Open.isA name)

/-- Whether an HTML element of a name is open at all. -/
def has (name : String) (stack : Stack) : Bool := stack.any (Open.isA name)

/-- Whether the innermost element is an HTML element of a name. -/
def isAt (name : String) : Stack → Bool
  | e :: _ => e.isA name
  | [] => false

/-! ### Closing -/

/-- Closes elements up to and including the first target. -/
def closeUpTo (isTarget : Open → Bool) (stack : Stack) : Stack :=
  (stack.dropWhile (!isTarget ·)).drop 1

/-- Closes elements up to the first of the given ones, which stays open. -/
def closeWithin (names : List String) (stack : Stack) : Stack :=
  stack.dropWhile (!Open.isOneOf names ·)

/-- Elements whose end tags may be left out. -/
def impliedEnds : List String :=
  ["dd", "dt", "li", "option", "optgroup", "p", "rb", "rp", "rt", "rtc"]

/-- Elements whose end tags may be left out at the end of a template. -/
def thoroughlyImpliedEnds : List String :=
  impliedEnds ++ ["caption", "colgroup", "tbody", "td", "tfoot", "th", "thead", "tr"]

/-- Closes elements whose end tags may be left out, but none of the name `kept`. -/
def closeImplied (names : List String) (kept : String) (stack : Stack) : Stack :=
  stack.dropWhile fun e => e.isOneOf names && e.name ≠ kept

/-- Removes an element wherever it is in the stack. -/
def remove (id : Nat) (stack : Stack) : Stack := stack.filter (·.id ≠ id)

/-- The place of an element, counted from the innermost. -/
def place? (id : Nat) (stack : Stack) : Option Nat := stack.findIdx? (·.id = id)

end Stack

end VideoPosters.Html
