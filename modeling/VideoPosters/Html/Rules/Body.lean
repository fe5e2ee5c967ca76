import VideoPosters.Html.Rules.Head

/-!
# Rules of the body

## Main definitions

* `Html.Rules.inBody` — the rules of the body.
* `Html.Rules.inText` — the rules of elements whose content is text.
-/

namespace VideoPosters.Html.Rules

open Build

/-- Blocks that end an open paragraph. -/
def blocks : List String :=
  ["address", "article", "aside", "blockquote", "center", "details", "dialog", "dir", "div",
    "dl", "fieldset", "figcaption", "figure", "footer", "header", "hgroup", "main", "menu",
    "nav", "ol", "p", "search", "section", "summary", "ul"]

/-- Blocks that an end tag of their name ends. -/
def endedBlocks : List String :=
  ["address", "article", "aside", "blockquote", "button", "center", "details", "dialog", "dir",
    "div", "dl", "fieldset", "figcaption", "figure", "footer", "header", "hgroup", "listing",
    "main", "menu", "nav", "ol", "pre", "search", "section", "summary", "ul"]

/-- Headings. -/
def headings : List String := ["h1", "h2", "h3", "h4", "h5", "h6"]

/-- Elements that format text until their end tag. -/
def formattings : List String :=
  ["a", "b", "big", "code", "em", "font", "i", "nobr", "s", "small", "strike", "strong", "tt",
    "u"]

/-- Elements that hold formatting of their own. -/
def enclosures : List String := ["applet", "marquee", "object"]

/-- Parts of tables and documents, which have no place in the body. -/
def misplaced : List String :=
  ["caption", "col", "colgroup", "frame", "head", "tbody", "td", "tfoot", "th", "thead", "tr"]

/-- Whether an input is not shown. -/
def isHidden (tag : Tag) : Bool :=
  match tag.attributes.lookup "type" with
  | some kind => String.ofList (kind.toList.map Char.toLower) = "hidden"
  | none => false

/-- The body, if it is open. -/
def body? (stack : Stack) : Option Open :=
  match stack.reverse with
  | _ :: e :: _ => if e.isA "body" then some e else none
  | _ => none

/-- The root element, if it is open. -/
def root? (stack : Stack) : Option Open := stack.getLast?

/-- The attributes of a second start tag of the root. -/
def mergeRoot (tag : Tag) : Build Unit := modify fun b =>
  match b.stack.has "template", root? b.stack with
  | false, some root => { b with draft := b.draft.addMissing root.id tag.attributes }
  | _, _ => b

/-- The attributes of a second start tag of the body. -/
def mergeBody (tag : Tag) : Build Unit := modify fun b =>
  match b.stack.has "template", body? b.stack with
  | false, some body =>
    { b with framesetAllowed := false, draft := b.draft.addMissing body.id tag.attributes }
  | _, _ => b

/-- A frameset replaces the body if nothing has been put there. -/
def replaceBody (tag : Tag) : Build Unit := do
  let b ← get
  match b.framesetAllowed, body? b.stack with
  | true, some body =>
    modify fun b =>
      { b with draft := b.draft.detach body.id, stack := b.stack.drop (b.stack.length - 1) }
    let _ ← insert tag
    goTo .inFrameset
  | _, _ => return

/-- The start of an item: an open item of its kind ends, unless it is out of reach. -/
def startItem (kinds : List String) (tag : Tag) : Build Unit := do
  forbidFrameset
  let isKind (e : Open) : Bool := e.isOneOf kinds
  let stops (e : Open) : Bool := isKind e || (e.isSpecial && !e.isOneOf ["address", "div", "p"])
  match (← get).stack.find? stops with
  | some e => if isKind e then close e.name
  | none => pure ()
  closeParagraph
  let _ ← insert tag

/-- The start of an element with the formatting that goes on. -/
def startInline (tag : Tag) : Build Unit := do
  restoreFormatting
  let _ ← insert tag

/-- The start of a link: an open link ends. -/
def startLink (tag : Tag) : Build Unit := do
  match (sinceMarker (← get).formatting).find? fun (e, _) => e.isA "a" with
  | some (e, _) =>
    endFormatting "a"
    forget e.id
    onStack (Stack.remove e.id)
  | none => pure ()
  restoreFormatting
  insertFormatting tag

/-- The start of an element of another vocabulary. -/
def startForeign (ns : Namespace) (tag : Tag) : Build Unit := do
  let _ ← insertIn ns tag
  if tag.selfClosing then pop

/-- The start of a form, of which only one can be open. -/
def startForm (tag : Tag) : Build Unit := do
  let b ← get
  let inTemplate := b.stack.has "template"
  if b.form.isNone || inTemplate then
    closeParagraph
    let e ← insert tag
    if !inTemplate then modify fun b => { b with form := some e }

/-- The mode of a selection: within a table its parts end the selection. -/
def selectionMode (mode : Mode) : Mode :=
  if [Mode.inTable, .inCaption, .inTableBody, .inRow, .inCell].contains mode then
    .inSelectInTable
  else .inSelect

/-- A start tag in the body. -/
def inBodyStart (tag : Tag) : Build Verdict := do
  let name := tag.name
  let is (names : List String) : Bool := names.contains name
  let b ← get
  if name = "html" then deal (mergeRoot tag)
  else if metadata.contains name then inHead (.startTag tag)
  else if name = "body" then deal (mergeBody tag)
  else if name = "frameset" then deal (replaceBody tag)
  else if blocks.contains name then closeParagraph; let _ ← insert tag; return .done
  else if headings.contains name then
    closeParagraph
    if (← get).stack.head?.any Open.isHeading then pop
    let _ ← insert tag
    return .done
  else if is ["pre", "listing"] then
    closeParagraph
    let _ ← insert tag
    dropLineFeed
    forbidFrameset
    return .done
  else if name = "form" then deal (startForm tag)
  else if name = "li" then deal (startItem ["li"] tag)
  else if is ["dd", "dt"] then deal (startItem ["dd", "dt"] tag)
  else if name = "plaintext" then
    closeParagraph
    let _ ← insert tag
    modify fun b => { b with content := .plain }
    return .done
  else if name = "button" then
    if b.stack.hasInScope Stack.isLimit "button" then closeImplied; closeUpTo "button"
    startInline tag
    forbidFrameset
    return .done
  else if name = "a" then deal (startLink tag)
  else if name = "nobr" then
    restoreFormatting
    if (← get).stack.hasInScope Stack.isLimit "nobr" then endFormatting "nobr"; restoreFormatting
    insertFormatting tag
    return .done
  else if formattings.contains name then restoreFormatting; insertFormatting tag; return .done
  else if enclosures.contains name then
    startInline tag
    mark
    forbidFrameset
    return .done
  else if name = "table" then
    if !b.isLegacy then closeParagraph
    let _ ← insert tag
    forbidFrameset
    goTo .inTable
    return .done
  else if is ["area", "br", "embed", "img", "keygen", "wbr", "input"] then
    startInline tag
    pop
    if !(name = "input" && isHidden tag) then forbidFrameset
    return .done
  else if is ["param", "source", "track"] then deal (insertClosed tag)
  else if name = "hr" then
    closeParagraph
    insertClosed tag
    forbidFrameset
    return .done
  else if name = "image" then
    startInline { tag with name := "img" }
    pop
    forbidFrameset
    return .done
  else if name = "textarea" then
    insertTextElement tag (.escapable name)
    dropLineFeed
    forbidFrameset
    return .done
  else if name = "xmp" then
    closeParagraph
    restoreFormatting
    forbidFrameset
    deal (insertTextElement tag (.raw name))
  else if name = "iframe" then forbidFrameset; deal (insertTextElement tag (.raw name))
  else if is ["noembed", "noscript"] then deal (insertTextElement tag (.raw name))
  else if name = "select" then
    startInline tag
    forbidFrameset
    goTo (selectionMode b.mode)
    return .done
  else if is ["optgroup", "option"] then
    if b.stack.isAt "option" then pop
    deal (startInline tag)
  else if is ["rb", "rtc"] then
    if b.stack.hasInScope Stack.isLimit "ruby" then closeImplied
    let _ ← insert tag
    return .done
  else if is ["rp", "rt"] then
    if b.stack.hasInScope Stack.isLimit "ruby" then closeImpliedBut "rtc"
    let _ ← insert tag
    return .done
  else if name = "math" then restoreFormatting; deal (startForeign .math tag)
  else if name = "svg" then restoreFormatting; deal (startForeign .svg tag)
  else if misplaced.contains name then ignore
  else deal (startInline tag)

/-- The end of a form. -/
def endForm : Build Unit := do
  let b ← get
  if b.stack.has "template" then
    if b.stack.hasInScope Stack.isLimit "form" then closeImplied; closeUpTo "form"
  else
    set { b with form := none }
    match b.form with
    | none => return
    | some form =>
      if b.stack.inScope Stack.isLimit (·.id = form.id) then
        closeImplied
        onStack (Stack.remove form.id)

/-- An end tag in the body. -/
def inBodyEnd (tag : Tag) : Build Verdict := do
  let name := tag.name
  let b ← get
  let inScope (isLimit : Open → Bool) : Bool := b.stack.hasInScope isLimit name
  if name = "template" then endTemplate
  else if name = "body" then
    if inScope Stack.isLimit then goTo .afterBody
    return .done
  else if name = "html" then
    if b.stack.hasInScope Stack.isLimit "body" then leaveTo .afterBody else ignore
  else if endedBlocks.contains name then
    if inScope Stack.isLimit then closeImplied; closeUpTo name
    return .done
  else if name = "form" then deal endForm
  else if name = "p" then
    if !inScope Stack.isButtonLimit then let _ ← insertImplied "p"
    deal (close "p")
  else if name = "li" then
    if inScope Stack.isListLimit then close name
    return .done
  else if ["dd", "dt"].contains name then
    if inScope Stack.isLimit then close name
    return .done
  else if headings.contains name then
    if b.stack.inScope Stack.isLimit Open.isHeading then
      closeImplied
      onStack (Stack.closeUpTo Open.isHeading)
    return .done
  else if formattings.contains name then deal (endFormatting name)
  else if enclosures.contains name then
    if inScope Stack.isLimit then closeImplied; closeUpTo name; endMarked
    return .done
  else if name = "br" then
    startInline ⟨name, [], false⟩
    pop
    forbidFrameset
    return .done
  else deal (endOrdinary name)

/-- The rules of the body. -/
def inBody (token : Token) : Build Verdict := do
  match token with
  | .null => ignore
  | .text space run =>
    restoreFormatting
    if !space then forbidFrameset
    deal (insertText run)
  | .comment => deal insertComment
  | .doctype _ => ignore
  | .startTag tag => inBodyStart tag
  | .endTag tag => inBodyEnd tag
  | .endOfText => if (← get).templateModes.isEmpty then ignore else return .by .inTemplate

/-- The rules of elements whose content is text. -/
def inText (token : Token) : Build Verdict := do
  let leave : Build Unit := do
    pop
    modify fun b => { b with mode := b.savedMode, content := .markup }
  match token with
  | .text _ run => deal (insertText run)
  | .endTag _ => deal leave
  | .endOfText => leave; return .again
  | _ => ignore

end VideoPosters.Html.Rules
