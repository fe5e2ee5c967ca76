import VideoPosters.Html.Rules.Table

/-!
# Rules of selections, templates, framesets and of what follows the body

## Main definitions

* `Html.Rules.inSelect`, `Html.Rules.inSelectInTable`, `Html.Rules.inTemplate` — the rules
  of selections and templates.
* `Html.Rules.inFrameset`, `Html.Rules.afterFrameset`, `Html.Rules.afterAfterFrameset` —
  the rules of framesets.
* `Html.Rules.afterBody`, `Html.Rules.afterAfterBody` — the rules after the body.
-/

namespace VideoPosters.Html.Rules

open Build

/-! ### Selections -/

/-- Ends the selection, if one is open. -/
def endSelect : Build Bool := do
  if (← get).stack.hasInScope Stack.isSelectLimit "select" then
    closeUpTo "select"
    resetMode
    return true
  else return false

/-- Closes the innermost element if it is of a name. -/
def popIf (name : String) : Build Unit := do if (← get).stack.isAt name then pop

/-- The rules of a selection. -/
def inSelect (token : Token) : Build Verdict := do
  match token with
  | .text _ run => deal (insertText run)
  | .comment => deal insertComment
  | .startTag tag =>
    if tag.name = "html" then inBody token
    else if tag.name = "option" then
      popIf "option"
      let _ ← insert tag
      return .done
    else if tag.name = "optgroup" then
      popIf "option"
      popIf "optgroup"
      let _ ← insert tag
      return .done
    else if tag.name = "hr" then
      popIf "option"
      popIf "optgroup"
      deal (insertClosed tag)
    else if tag.name = "select" then let _ ← endSelect; return .done
    else if ["input", "keygen", "textarea"].contains tag.name then
      if ← endSelect then return .again else return .done
    else if ["script", "template"].contains tag.name then inHead token
    else ignore
  | .endTag tag =>
    if tag.name = "optgroup" then
      if (← get).stack.isAt "option" && Stack.isAt "optgroup" ((← get).stack.drop 1) then pop
      deal (popIf "optgroup")
    else if tag.name = "option" then deal (popIf "option")
    else if tag.name = "select" then let _ ← endSelect; return .done
    else if tag.name = "template" then endTemplate
    else ignore
  | .endOfText => inBody token
  | _ => ignore

/-- The parts of a table that end a selection within it. -/
def selectEnds : List String :=
  ["caption", "table", "tbody", "tfoot", "thead", "tr", "td", "th"]

/-- The rules of a selection within a table. -/
def inSelectInTable (token : Token) : Build Verdict := do
  let leave : Build Verdict := do
    closeUpTo "select"
    resetMode
    return .again
  match token with
  | .startTag tag => if selectEnds.contains tag.name then leave else inSelect token
  | .endTag tag =>
    if selectEnds.contains tag.name then
      if ← inTableScope [tag.name] then leave else ignore
    else inSelect token
  | _ => inSelect token

/-! ### Templates -/

/-- Goes on within a template by the rules of a mode. -/
def templateGoesOn (mode : Mode) : Build Verdict := do
  modify fun b => { b with templateModes := mode :: b.templateModes.drop 1 }
  leaveTo mode

/-- The rules of a template. -/
def inTemplate (token : Token) : Build Verdict := do
  match token with
  | .text .. => inBody token
  | .comment => inBody token
  | .startTag tag =>
    if metadata.contains tag.name then inHead token
    else if tag.name = "col" then templateGoesOn .inColumnGroup
    else if parts.contains tag.name then templateGoesOn .inTable
    else if tag.name = "tr" then templateGoesOn .inTableBody
    else if cells.contains tag.name then templateGoesOn .inRow
    else templateGoesOn .inBody
  | .endTag tag => if tag.name = "template" then endTemplate else ignore
  | .endOfText =>
    if (← get).stack.has "template" then
      closeUpTo "template"
      endMarked
      modify fun b => { b with templateModes := b.templateModes.drop 1 }
      resetMode
      return .again
    else ignore
  | _ => ignore

/-! ### After the body -/

/-- The rules after the body. -/
def afterBody (token : Token) : Build Verdict := do
  match token with
  | .text true _ => inBody token
  | .comment =>
    match root? (← get).stack with
    | some root => deal (insertCommentIn root.id)
    | none => ignore
  | .doctype _ => ignore
  | .endOfText => ignore
  | .startTag tag => if tag.name = "html" then inBody token else leaveTo .inBody
  | .endTag tag =>
    if tag.name = "html" then deal (goTo .afterAfterBody) else leaveTo .inBody
  | _ => leaveTo .inBody

/-- The rules after the document. -/
def afterAfterBody (token : Token) : Build Verdict := do
  match token with
  | .text true _ => inBody token
  | .comment => deal (insertCommentIn 0)
  | .doctype _ => ignore
  | .endOfText => ignore
  | .startTag tag => if tag.name = "html" then inBody token else leaveTo .inBody
  | _ => leaveTo .inBody

/-! ### Framesets -/

/-- The rules of a frameset. -/
def inFrameset (token : Token) : Build Verdict := do
  match token with
  | .text true run => deal (insertText run)
  | .comment => deal insertComment
  | .startTag tag =>
    if tag.name = "html" then inBody token
    else if tag.name = "frameset" then let _ ← insert tag; return .done
    else if tag.name = "frame" then deal (insertClosed tag)
    else if tag.name = "noframes" then inHead token
    else ignore
  | .endTag tag =>
    if tag.name = "frameset" && 1 < (← get).stack.length then
      pop
      if !(← get).stack.isAt "frameset" then goTo .afterFrameset
    return .done
  | _ => ignore

/-- The rules after a frameset. -/
def afterFrameset (token : Token) : Build Verdict := do
  match token with
  | .text true run => deal (insertText run)
  | .comment => deal insertComment
  | .startTag tag =>
    if tag.name = "html" then inBody token
    else if tag.name = "noframes" then inHead token
    else ignore
  | .endTag tag => if tag.name = "html" then deal (goTo .afterAfterFrameset) else ignore
  | _ => ignore

/-- The rules after a document with a frameset. -/
def afterAfterFrameset (token : Token) : Build Verdict := do
  match token with
  | .text true _ => inBody token
  | .comment => deal (insertCommentIn 0)
  | .startTag tag =>
    if tag.name = "html" then inBody token
    else if tag.name = "noframes" then inHead token
    else ignore
  | _ => ignore

end VideoPosters.Html.Rules
