import VideoPosters.Html.Rules.Foreign

/-!
# Reading a document

## Main definitions

* `Html.Rules.apply` — the rules of a mode.
* `Html.read` — the nodes of a document.
-/

namespace VideoPosters.Html

/-- The rules of a mode. -/
def Rules.apply : Mode → Token → Build Verdict
  | .initial => initial
  | .beforeHtml => beforeHtml
  | .beforeHead => beforeHead
  | .inHead => inHead
  | .afterHead => afterHead
  | .inBody => inBody
  | .text => inText
  | .inTable => inTable
  | .inTableText => inTableText
  | .inCaption => inCaption
  | .inColumnGroup => inColumnGroup
  | .inTableBody => inTableBody
  | .inRow => inRow
  | .inCell => inCell
  | .inSelect => inSelect
  | .inSelectInTable => inSelectInTable
  | .inTemplate => inTemplate
  | .afterBody => afterBody
  | .inFrameset => inFrameset
  | .afterFrameset => afterFrameset
  | .afterAfterBody => afterAfterBody
  | .afterAfterFrameset => afterAfterFrameset

namespace Build

/-- Deals with a token: by the rules of the given mode first, if there is one.  The fuel
bounds how often the token is passed on. -/
def process : Nat → Option Mode → Token → Build Unit
  | 0, _, _ => return
  | fuel + 1, mode?, token => do
    let b ← get
    let verdict ← match mode? with
      | some mode => Rules.apply mode token
      | none =>
        if Rules.appliesForeign b token then Rules.inForeign token
        else Rules.apply b.mode token
    match verdict with
    | .done => return
    | .again => process fuel none token
    | .by mode => process fuel (some mode) token

/-- A token without the line feed at its start, if that is to be left out; nothing if that
is all it has. -/
def withoutLineFeed? (drops : Bool) : Token → Option Token
  | .text space ('\n' :: run) =>
    if drops then if run.isEmpty then none else some (.text space run)
    else some (.text space ('\n' :: run))
  | token => some token

/-- Deals with a token.  It is passed on at most a few times for each open element. -/
def feed (token : Token) : Build Unit := do
  let b ← get
  set { b with dropsLineFeed := false }
  match withoutLineFeed? b.dropsLineFeed token with
  | some token => process (4 * b.stack.length + 32) none token
  | none => return

/-- Reads a text to its end.  The fuel bounds the number of steps. -/
def readAll : Nat → List Char → Build Unit
  | 0, _ => return
  | fuel + 1, s => do
    let b ← get
    let (tokens, rest) := Token.next b.content b.isForeign s
    for token in tokens do feed token
    if tokens.contains .endOfText then return else readAll fuel rest

end Build

/-- A text with its line ends written as line feeds. -/
def normalizeLines : List Char → List Char
  | '\r' :: '\n' :: s => '\n' :: normalizeLines s
  | '\r' :: s => '\n' :: normalizeLines s
  | c :: s => c :: normalizeLines s
  | [] => []

/-- A text without the byte order mark at its start. -/
def withoutMark : List Char → List Char
  | '\ufeff' :: s => s
  | s => s

/-- The nodes of a document once it is read. -/
def read (document : String) : Draft :=
  let s := normalizeLines (withoutMark document.toList)
  let ((), b) := (Build.readAll (s.length + 2) s).run Builder.start
  b.draft

end VideoPosters.Html
