import VideoPosters.Html.Rules.Rest

/-!
# Rules of other vocabularies

Within graphics and mathematics tags are taken as they are, until a tag that only HTML has
leads out of them.

## Main definitions

* `Html.Rules.appliesForeign` — whether these rules apply to a token.
* `Html.Rules.inForeign` — the rules.
-/

namespace VideoPosters.Html.Rules

open Build

/-- Start tags that lead out of another vocabulary. -/
def breakouts : List String :=
  ["b", "big", "blockquote", "body", "br", "center", "code", "dd", "div", "dl", "dt", "em",
    "embed", "h1", "h2", "h3", "h4", "h5", "h6", "head", "hr", "i", "img", "li", "listing",
    "menu", "meta", "nobr", "ol", "p", "pre", "ruby", "s", "small", "span", "strong", "strike",
    "sub", "sup", "table", "tt", "u", "ul", "var"]

/-- Whether a start tag leads out of another vocabulary. -/
def leadsOut (tag : Tag) : Bool :=
  breakouts.contains tag.name ||
    (tag.name = "font" && tag.attributes.any fun a => ["color", "face", "size"].contains a.1)

/-- Whether the rules of other vocabularies apply to a token.  Some elements hold HTML
again. -/
def appliesForeign (b : Builder) (token : Token) : Bool :=
  match b.stack with
  | [] => false
  | e :: _ =>
    e.ns ≠ .html &&
      match token with
      | .endOfText => false
      | .text .. | .null => !(e.isMathText || e.isSvgHtml)
      | .startTag tag =>
        !(e.isMathText && tag.name ≠ "mglyph" && tag.name ≠ "malignmark") && !e.isSvgHtml &&
          !(e.ns = .math && e.name = "annotation-xml" && tag.name = "svg")
      | _ => true

/-- Whether HTML may stand within an element. -/
def holdsHtml (e : Open) : Bool := e.ns = .html || e.isMathText || e.isSvgHtml

/-- The end tag in another vocabulary: it closes the innermost element of its name, unless
an HTML element comes before; that leaves it to the rules of the mode. -/
def endForeign (mode : Mode) (name : String) : Stack → Build Verdict
  | [] => ignore
  | [_] => ignore
  | e :: outer =>
    if e.name = name then deal (onStack fun s => (s.dropWhile (·.id ≠ e.id)).drop 1)
    else
      match outer with
      | [] => ignore
      | [_] => ignore
      | next :: _ => if next.ns = .html then return .by mode else endForeign mode name outer

/-- The rules of other vocabularies. -/
def inForeign (token : Token) : Build Verdict := do
  let b ← get
  let ns := (b.stack.head?.map Open.ns).getD .html
  let leave : Build Verdict := do
    onStack (·.dropWhile (!holdsHtml ·))
    return .by b.mode
  match token with
  | .null => deal (insertText [Reference.replacement])
  | .text space run =>
    if !space then forbidFrameset
    deal (insertText run)
  | .comment => deal insertComment
  | .doctype _ => ignore
  | .startTag tag => if leadsOut tag then leave else deal (startForeign ns tag)
  | .endTag tag =>
    if ["br", "p"].contains tag.name then leave else endForeign b.mode tag.name b.stack
  | .endOfText => ignore

end VideoPosters.Html.Rules
