import VideoPosters.Html.Builder

/-!
# Rules before the body

The rules for a token depend on the mode.  A rule deals with the token, or changes the
mode and leaves the token to the rules of that mode.

## Main definitions

* `Html.Verdict` — whether a token has been dealt with.
* `Html.Rules.inHead` — the rules of the head.
* `Html.Rules.initial`, `Html.Rules.beforeHtml`, `Html.Rules.beforeHead`,
  `Html.Rules.afterHead` — the rules around it.
-/

namespace VideoPosters.Html

/-- Whether a token has been dealt with. -/
inductive Verdict where
  | done
  /-- The rules of the present mode apply. -/
  | again
  /-- The rules of another mode apply this once. -/
  | by (mode : Mode)
  deriving DecidableEq, Repr

namespace Rules

/-- Leaves the token to the rules of a mode. -/
def leaveTo (mode : Mode) : Build Verdict := do Build.goTo mode; return .again

/-- Deals with the token in one step. -/
def deal (step : Build Unit) : Build Verdict := do step; return .done

/-- Leaves the token out. -/
def ignore : Build Verdict := return .done

/-- End tags that are not simply left out where no element is open. -/
def outerEnds : List String := ["body", "html", "br"]

/-- The elements of a head that may also stand elsewhere. -/
def metadata : List String :=
  ["base", "basefont", "bgsound", "link", "meta", "noframes", "script", "style", "template",
    "title"]

/-! ### Document types -/

/-- Public identifiers of document types of an earlier time. -/
def legacyPublicIds : List String :=
  ["-//w3o//dtd w3 html strict 3.0//en//", "-/w3c/dtd html 4.0 transitional/en", "html"]

/-- How public identifiers of document types of an earlier time begin. -/
def legacyPublicStarts : List String :=
  ["-//ietf//dtd html 2.0 level 1//", "-//ietf//dtd html 2.0 level 2//",
    "-//ietf//dtd html 2.0 strict level 1//", "-//ietf//dtd html 2.0 strict level 2//",
    "-//ietf//dtd html 2.0 strict//", "-//ietf//dtd html 2.0//", "-//ietf//dtd html 2.1e//",
    "-//ietf//dtd html 3.0//", "-//ietf//dtd html 3.2 final//", "-//ietf//dtd html 3.2//",
    "-//ietf//dtd html 3//", "-//ietf//dtd html level 0//", "-//ietf//dtd html level 1//",
    "-//ietf//dtd html level 2//", "-//ietf//dtd html level 3//",
    "-//ietf//dtd html strict level 0//", "-//ietf//dtd html strict level 1//",
    "-//ietf//dtd html strict level 2//", "-//ietf//dtd html strict level 3//",
    "-//ietf//dtd html strict//", "-//ietf//dtd html//",
    "-//w3c//dtd html 3 1995-03-24//", "-//w3c//dtd html 3.2 draft//",
    "-//w3c//dtd html 3.2 final//", "-//w3c//dtd html 3.2//", "-//w3c//dtd html 3.2s draft//",
    "-//w3c//dtd html 4.0 frameset//", "-//w3c//dtd html 4.0 transitional//",
    "-//w3c//dtd html experimental 19960712//", "-//w3c//dtd html experimental 970421//",
    "-//w3c//dtd w3 html//", "-//w3o//dtd w3 html 3.0//"]

/-- How public identifiers begin that are of an earlier time if there is no system
identifier. -/
def legacyAloneStarts : List String :=
  ["-//w3c//dtd html 4.01 frameset//", "-//w3c//dtd html 4.01 transitional//"]

/-- Whether a text starts with one of the given ones, in any case. -/
def startsWithAny (starts : List String) (s : List Char) : Bool :=
  starts.any fun start => Token.startsWithWord start.toList s

/-- Whether a document follows the conventions of an earlier time. -/
def isLegacy (d : Doctype) : Bool :=
  let publicId := (d.publicId.getD []).map Char.toLower
  d.malformed || d.name ≠ "html".toList ||
    legacyPublicIds.contains (String.ofList publicId) ||
    startsWithAny legacyPublicStarts publicId ||
    (startsWithAny legacyAloneStarts publicId && d.systemId.isNone)

/-! ### The head -/

/-- The end of a template. -/
def endTemplate : Build Verdict := do
  if (← get).stack.has "template" then
    Build.onStack (Stack.closeImplied Stack.thoroughlyImpliedEnds "")
    Build.closeUpTo "template"
    Build.endMarked
    modify fun b => { b with templateModes := b.templateModes.drop 1 }
    Build.resetMode
  return .done

/-- A start tag in the head; other tags than those of the head end it. -/
def inHeadStart (tag : Tag) : Build Verdict := do
  let is (names : List String) : Bool := names.contains tag.name
  if tag.name = "html" then return .by .inBody
  else if is ["base", "basefont", "bgsound", "link", "meta"] then deal (Build.insertClosed tag)
  else if tag.name = "title" then deal (Build.insertTextElement tag (.escapable tag.name))
  else if is ["noframes", "style", "noscript"] then
    deal (Build.insertTextElement tag (.raw tag.name))
  else if tag.name = "script" then deal (Build.insertTextElement tag .script)
  else if tag.name = "template" then
    let _ ← Build.insert tag
    Build.mark
    Build.forbidFrameset
    Build.goTo .inTemplate
    modify fun b => { b with templateModes := .inTemplate :: b.templateModes }
    return .done
  else if tag.name = "head" then ignore
  else Build.pop; leaveTo .afterHead

/-- The rules of the head. -/
def inHead (token : Token) : Build Verdict := do
  match token with
  | .text true run => deal (Build.insertText run)
  | .comment => deal Build.insertComment
  | .doctype _ => ignore
  | .startTag tag => inHeadStart tag
  | .endTag tag =>
    if tag.name = "head" then Build.pop; Build.goTo .afterHead; return .done
    else if tag.name = "template" then endTemplate
    else if outerEnds.contains tag.name then Build.pop; leaveTo .afterHead
    else ignore
  | _ => Build.pop; leaveTo .afterHead

/-! ### Around the head -/

/-- The rules before a document type. -/
def initial (token : Token) : Build Verdict := do
  match token with
  | .text true _ => ignore
  | .comment => deal (Build.insertCommentIn 0)
  | .doctype d =>
    modify fun b => { b with isLegacy := isLegacy d }
    Build.goTo .beforeHtml
    return .done
  | _ =>
    modify fun b => { b with isLegacy := true }
    leaveTo .beforeHtml

/-- The rules before the root element. -/
def beforeHtml (token : Token) : Build Verdict := do
  let implied : Build Verdict := do Build.insertRoot []; leaveTo .beforeHead
  match token with
  | .text true _ => ignore
  | .comment => deal (Build.insertCommentIn 0)
  | .doctype _ => ignore
  | .startTag tag =>
    if tag.name = "html" then
      Build.insertRoot tag.attributes
      Build.goTo .beforeHead
      return .done
    else implied
  | .endTag tag => if ("head" :: outerEnds).contains tag.name then implied else ignore
  | _ => implied

/-- The rules before the head. -/
def beforeHead (token : Token) : Build Verdict := do
  let head (tag : Tag) : Build Unit := do
    let e ← Build.insert tag
    modify fun b => { b with head := some e, mode := .inHead }
  let implied : Build Verdict := do head ⟨"head", [], false⟩; return .again
  match token with
  | .text true _ => ignore
  | .comment => deal Build.insertComment
  | .doctype _ => ignore
  | .startTag tag =>
    if tag.name = "html" then return .by .inBody
    else if tag.name = "head" then deal (head tag)
    else implied
  | .endTag tag => if ("head" :: outerEnds).contains tag.name then implied else ignore
  | _ => implied

/-- A start tag of the head that comes after it belongs to it all the same. -/
def lateMetadata (token : Token) : Build Verdict := do
  match (← get).head with
  | none => inHead token
  | some head =>
    Build.onStack (head :: ·)
    let verdict ← inHead token
    Build.onStack (Stack.remove head.id)
    return verdict

/-- The rules between the head and the body. -/
def afterHead (token : Token) : Build Verdict := do
  let implied : Build Verdict := do let _ ← Build.insertImplied "body"; leaveTo .inBody
  match token with
  | .text true run => deal (Build.insertText run)
  | .comment => deal Build.insertComment
  | .doctype _ => ignore
  | .startTag tag =>
    if tag.name = "html" then return .by .inBody
    else if tag.name = "body" then
      let _ ← Build.insert tag
      Build.forbidFrameset
      Build.goTo .inBody
      return .done
    else if tag.name = "frameset" then
      let _ ← Build.insert tag
      Build.goTo .inFrameset
      return .done
    else if metadata.contains tag.name then lateMetadata token
    else if tag.name = "head" then ignore
    else implied
  | .endTag tag =>
    if tag.name = "template" then inHead token
    else if outerEnds.contains tag.name then implied
    else ignore
  | _ => implied

end Rules

end VideoPosters.Html
