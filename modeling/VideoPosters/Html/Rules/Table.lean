import VideoPosters.Html.Rules.Body

/-!
# Rules of tables

What does not belong in a table is put in front of it, by the rules of the body.

## Main definitions

* `Html.Rules.inTable`, `Html.Rules.inTableText`, `Html.Rules.inCaption`,
  `Html.Rules.inColumnGroup`, `Html.Rules.inTableBody`, `Html.Rules.inRow`,
  `Html.Rules.inCell` — the rules of the parts of a table.
-/

namespace VideoPosters.Html.Rules

open Build

/-- The groups of rows of a table. -/
def rowGroups : List String := ["tbody", "tfoot", "thead"]

/-- The cells of a row. -/
def cells : List String := ["td", "th"]

/-- The parts of a table outside of cells. -/
def parts : List String := ["caption", "col", "colgroup", "tbody", "tfoot", "thead"]

/-- Whether one of some elements is in scope within the innermost table. -/
def inTableScope (names : List String) : Build Bool := do
  return (← get).stack.inScope Stack.isTableLimit (Open.isOneOf names)

/-- Closes elements up to the first of the given ones, to the root or to a template. -/
def closeWithin (names : List String) : Build Unit :=
  onStack (Stack.closeWithin (names ++ ["template", "html"]))

/-- Deals with a token by the rules of the body, putting content in front of the table. -/
def foster (token : Token) : Build Verdict := do
  modify fun b => { b with fosters := true }
  let verdict ← inBody token
  modify fun b => { b with fosters := false }
  return verdict

/-- Starts a part of a table. -/
def startPart (within : List String) (tag : Tag) (mode : Mode) : Build Verdict := do
  closeWithin within
  let _ ← insert tag
  goTo mode
  return .done

/-- Starts a part of a table that no tag stands for and leaves the token to its rules. -/
def implyPart (within : List String) (name : String) (mode : Mode) : Build Verdict := do
  closeWithin within
  let _ ← insertImplied name
  leaveTo mode

/-- Ends the table, if one is open. -/
def endTable : Build Bool := do
  if ← inTableScope ["table"] then
    closeUpTo "table"
    resetMode
    return true
  else return false

/-- Text within a table, which is kept until it is known what it consists of. -/
def tableText (token : Token) : Build Verdict := do
  let b ← get
  if b.stack.head?.any (Open.isOneOf tableParts) then
    set { b with savedMode := b.mode }
    leaveTo .inTableText
  else foster token

/-- A start tag within a table. -/
def inTableStart (tag : Tag) : Build Verdict := do
  let name := tag.name
  if name = "caption" then
    closeWithin ["table"]
    mark
    startPart ["table"] tag .inCaption
  else if name = "colgroup" then startPart ["table"] tag .inColumnGroup
  else if name = "col" then implyPart ["table"] "colgroup" .inColumnGroup
  else if rowGroups.contains name then startPart ["table"] tag .inTableBody
  else if name = "tr" || cells.contains name then implyPart ["table"] "tbody" .inTableBody
  else if name = "table" then
    if ← endTable then return .again else return .done
  else if ["style", "script", "template"].contains name then inHead (.startTag tag)
  else if name = "input" && isHidden tag then deal (insertClosed tag)
  else if name = "form" then
    let b ← get
    if b.form.isNone && !b.stack.has "template" then
      let e ← insert tag
      modify fun b => { b with form := some e }
      pop
    return .done
  else foster (.startTag tag)

/-- The rules of a table. -/
def inTable (token : Token) : Build Verdict := do
  match token with
  | .text .. => tableText token
  | .null => tableText token
  | .comment => deal insertComment
  | .doctype _ => ignore
  | .startTag tag => inTableStart tag
  | .endTag tag =>
    if tag.name = "table" then let _ ← endTable; return .done
    else if tag.name = "template" then endTemplate
    else if (["body", "html", "tr"] ++ parts ++ cells).contains tag.name then ignore
    else foster token
  | .endOfText => inBody token

/-- Puts the pending text where it belongs: spaces within the table, other text in front
of it. -/
def placePending : Build Unit := do
  let runs := (← get).pending.reverse
  modify fun b => { b with pending := [] }
  if runs.all (·.1) then
    for (_, run) in runs do insertText run
  else
    for (space, run) in runs do let _ ← foster (.text space run)

/-- The rules of text within a table. -/
def inTableText (token : Token) : Build Verdict := do
  match token with
  | .null => ignore
  | .doctype _ => ignore
  | .text space run =>
    modify fun b => { b with pending := (space, run) :: b.pending }
    return .done
  | _ =>
    placePending
    leaveTo (← get).savedMode

/-- The rules of a caption. -/
def inCaption (token : Token) : Build Verdict := do
  let endCaption : Build Bool := do
    if ← inTableScope ["caption"] then
      closeImplied
      closeUpTo "caption"
      endMarked
      goTo .inTable
      return true
    else return false
  match token with
  | .startTag tag =>
    if tag.name = "tr" || (parts ++ cells).contains tag.name then
      if ← endCaption then return .again else return .done
    else inBody token
  | .endTag tag =>
    if tag.name = "caption" then let _ ← endCaption; return .done
    else if tag.name = "table" then
      if ← endCaption then return .again else return .done
    else if (["body", "html", "tr"] ++ parts ++ cells).contains tag.name then ignore
    else inBody token
  | _ => inBody token

/-- The rules of a group of columns. -/
def inColumnGroup (token : Token) : Build Verdict := do
  let leave : Build Verdict := do
    if (← get).stack.isAt "colgroup" then
      pop
      leaveTo .inTable
    else ignore
  match token with
  | .text true run => deal (insertText run)
  | .comment => deal insertComment
  | .doctype _ => ignore
  | .startTag tag =>
    if tag.name = "html" then inBody token
    else if tag.name = "col" then deal (insertClosed tag)
    else if tag.name = "template" then inHead token
    else leave
  | .endTag tag =>
    if tag.name = "colgroup" then
      if (← get).stack.isAt "colgroup" then
        pop
        goTo .inTable
      return .done
    else if tag.name = "col" then ignore
    else if tag.name = "template" then endTemplate
    else leave
  | .endOfText => inBody token
  | _ => leave

/-- The rules of a group of rows. -/
def inTableBody (token : Token) : Build Verdict := do
  let leave : Build Verdict := do
    if ← inTableScope ("table" :: rowGroups) then
      closeWithin rowGroups
      pop
      leaveTo .inTable
    else ignore
  match token with
  | .startTag tag =>
    if tag.name = "tr" then startPart rowGroups tag .inRow
    else if cells.contains tag.name then implyPart rowGroups "tr" .inRow
    else if parts.contains tag.name then leave
    else inTable token
  | .endTag tag =>
    if rowGroups.contains tag.name then
      if ← inTableScope [tag.name] then
        closeWithin rowGroups
        pop
        goTo .inTable
      return .done
    else if tag.name = "table" then leave
    else if (["body", "html", "tr"] ++ parts ++ cells).contains tag.name then ignore
    else inTable token
  | _ => inTable token

/-- The rules of a row. -/
def inRow (token : Token) : Build Verdict := do
  let endRow : Build Bool := do
    if ← inTableScope ["tr"] then
      closeWithin ["tr"]
      pop
      goTo .inTableBody
      return true
    else return false
  let leave : Build Verdict := do if ← endRow then return .again else return .done
  match token with
  | .startTag tag =>
    if cells.contains tag.name then
      let verdict ← startPart ["tr"] tag .inCell
      mark
      return verdict
    else if tag.name = "tr" || parts.contains tag.name then leave
    else inTable token
  | .endTag tag =>
    if tag.name = "tr" then let _ ← endRow; return .done
    else if tag.name = "table" then leave
    else if rowGroups.contains tag.name then
      if ← inTableScope [tag.name] then leave else ignore
    else if (["body", "html"] ++ parts ++ cells).contains tag.name then ignore
    else inTable token
  | _ => inTable token

/-- The rules of a cell. -/
def inCell (token : Token) : Build Verdict := do
  let leave : Build Verdict := do
    closeImplied
    onStack (Stack.closeUpTo (Open.isOneOf cells))
    endMarked
    leaveTo .inRow
  match token with
  | .startTag tag =>
    if tag.name = "tr" || (parts ++ cells).contains tag.name then
      if ← inTableScope cells then leave else ignore
    else inBody token
  | .endTag tag =>
    if cells.contains tag.name then
      if ← inTableScope [tag.name] then
        closeImplied
        closeUpTo tag.name
        endMarked
        goTo .inRow
      return .done
    else if (["table", "tr"] ++ rowGroups).contains tag.name then
      if ← inTableScope [tag.name] then leave else ignore
    else if (["body", "html"] ++ parts).contains tag.name then ignore
    else inBody token
  | _ => inBody token

end VideoPosters.Html.Rules
