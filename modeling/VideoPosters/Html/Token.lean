import VideoPosters.Html.Reference

/-!
# Tokens of markup

A text is read as a sequence of tokens: tags, comments, document types and runs of text.
What follows the start tag of some elements is read as text up to the end tag.

## Main definitions

* `Html.Token` — the tokens.
* `Html.Content` — how what follows is read.
* `Html.Token.next` — the tokens at the start of a text, and the rest.
-/

namespace VideoPosters.Html

/-- An attribute: its name and its value. -/
abbrev Attribute := String × String

/-- A tag.  Names are in lower case, and each attribute occurs once. -/
structure Tag where
  name : String
  attributes : List Attribute
  /-- Whether the tag ends in a slash. -/
  selfClosing : Bool
  deriving DecidableEq, Repr, Inhabited

/-- A document type. -/
structure Doctype where
  name : List Char
  publicId : Option (List Char)
  systemId : Option (List Char)
  /-- Whether it is written wrongly. -/
  malformed : Bool
  deriving DecidableEq, Repr

/-- A token. -/
inductive Token where
  | doctype (doctype : Doctype)
  | startTag (tag : Tag)
  | endTag (tag : Tag)
  | comment
  /-- A run of characters, all of them spaces or none of them. -/
  | text (isSpace : Bool) (run : List Char)
  /-- A null character. -/
  | null
  | endOfText
  deriving DecidableEq, Repr, Inhabited

/-- How what follows is read. -/
inductive Content where
  /-- As markup. -/
  | markup
  /-- As text with character references, up to the end tag of a name. -/
  | escapable (name : String)
  /-- As text, up to the end tag of a name. -/
  | raw (name : String)
  /-- As a script, in which comments can hide end tags. -/
  | script
  /-- As text to the very end. -/
  | plain
  deriving DecidableEq, Repr, Inhabited

/-- Spaces between the parts of a tag. -/
def isSpace (c : Char) : Bool :=
  c = ' ' || c = '\n' || c = '\t' || c = '\r' || c = '\x0c'

/-- A character as it is kept where null characters are not allowed. -/
def withoutNull (c : Char) : Char := if c.toNat = 0 then Reference.replacement else c

/-- A character of a name as it is kept. -/
def nameChar (c : Char) : Char := withoutNull c.toLower

/-- Characters up to the end of a tag's name or of an unquoted part of it. -/
def endsName (c : Char) : Bool := isSpace c || c = '/' || c = '>'

namespace Token

/-! ### Tags -/

/-- Adds an attribute unless there is one of its name. -/
def addAttribute (attributes : List Attribute) (name value : List Char) : List Attribute :=
  let name := String.ofList name
  if attributes.any (·.1 = name) then attributes
  else attributes ++ [(name, String.ofList value)]

/-- The value of an attribute as it is kept. -/
def valueOf (s : List Char) : List Char := (Reference.decode true s).map withoutNull

/-- The value of an attribute and the rest, unless the text ends within it. -/
def value? : List Char → Option (List Char × List Char)
  | [] => none
  | '>' :: s => some ([], '>' :: s)
  | c :: s =>
    if c = '"' || c = '\'' then
      match s.dropWhile (· ≠ c) with
      | [] => none
      | _ :: rest => some (valueOf (s.takeWhile (· ≠ c)), rest)
    else
      let ends (d : Char) : Bool := isSpace d || d = '>'
      some (valueOf ((c :: s).takeWhile (!ends ·)), (c :: s).dropWhile (!ends ·))

/-- The attributes of a tag, whether it ends in a slash, and the rest, unless the text ends
within the tag.  The fuel bounds the number of steps. -/
def attributes? : Nat → List Attribute → List Char →
    Option (List Attribute × Bool × List Char)
  | 0, _, _ => none
  | fuel + 1, before, s =>
    match s.dropWhile isSpace with
    | [] => none
    | '>' :: rest => some (before, false, rest)
    | '/' :: '>' :: rest => some (before, true, rest)
    | '/' :: rest => attributes? fuel before rest
    | c :: rest =>
      -- An equals sign that starts a name belongs to it.
      let continues (d : Char) : Bool := !endsName d && d ≠ '='
      let name := (c :: rest.takeWhile continues).map nameChar
      match (rest.dropWhile continues).dropWhile isSpace with
      | '=' :: rest =>
        match value? (rest.dropWhile isSpace) with
        | none => none
        | some (value, rest) => attributes? fuel (addAttribute before name value) rest
      | rest => attributes? fuel (addAttribute before name []) rest

/-- The tag whose name starts a text, and the rest, unless the text ends within it. -/
def tag? (s : List Char) : Option (Tag × List Char) :=
  let name := (s.takeWhile (!endsName ·)).map nameChar
  match attributes? (s.length + 1) [] (s.dropWhile (!endsName ·)) with
  | none => none
  | some (attributes, selfClosing, rest) =>
    some (⟨String.ofList name, attributes, selfClosing⟩, rest)

/-! ### Comments and document types -/

/-- What follows a comment; `dashes` are the dashes just read, and `bang` says that an
exclamation mark followed two of them. -/
def afterComment (dashes : Nat) (bang : Bool) : List Char → List Char
  | [] => []
  | c :: s =>
    if c = '>' && (bang || 2 ≤ dashes) then s
    else if c = '-' then afterComment (if bang then 1 else dashes + 1) false s
    else if c = '!' && 2 ≤ dashes then afterComment 0 true s
    else afterComment 0 false s

/-- What follows a comment just begun: it may end at once. -/
def afterCommentStart : List Char → List Char
  | '>' :: s => s
  | '-' :: '>' :: s => s
  | s => afterComment 0 false s

/-- What follows the next `>`. -/
def afterBracket (s : List Char) : List Char := (s.dropWhile (· ≠ '>')).drop 1

/-- Whether a text starts with a word in lower case, in any case. -/
def startsWithWord (word s : List Char) : Bool := word = (s.take word.length).map Char.toLower

/-- A quoted identifier, if it starts a text and is closed, and what follows it. -/
def quoted? : List Char → Option (List Char × List Char)
  | [] => none
  | c :: s =>
    if c = '"' || c = '\'' then
      match s.dropWhile (· ≠ c) with
      | [] => none
      | _ :: rest => some ((s.takeWhile (· ≠ c)).map withoutNull, rest)
    else none

/-- A document type that names a system identifier, read from there. -/
def doctypeFromSystem (name : List Char) (publicId : Option (List Char)) (s : List Char) :
    Doctype :=
  match quoted? s with
  | some (systemId, _) => ⟨name, publicId, some systemId, false⟩
  | none => ⟨name, publicId, none, true⟩

/-- A document type that names a public identifier, read from there. -/
def doctypeFromPublic (name : List Char) (s : List Char) : Doctype :=
  match quoted? s with
  | none => ⟨name, none, none, true⟩
  | some (publicId, rest) =>
    match rest.dropWhile isSpace with
    | [] => ⟨name, some publicId, none, false⟩
    | rest => doctypeFromSystem name (some publicId) rest

/-- The document type that a text without `>` writes. -/
def doctypeOf (s : List Char) : Doctype :=
  let s := s.dropWhile isSpace
  let name := (s.takeWhile (!isSpace ·)).map nameChar
  match (s.dropWhile (!isSpace ·)).dropWhile isSpace with
  | [] => ⟨name, none, none, name.isEmpty⟩
  | rest =>
    let after := (rest.drop 6).dropWhile isSpace
    if startsWithWord "public".toList rest then doctypeFromPublic name after
    else if startsWithWord "system".toList rest then doctypeFromSystem name none after
    else ⟨name, none, none, true⟩

/-- The characters up to the end of a section of characters, and the rest. -/
def characterSection : List Char → List Char × List Char
  | [] => ([], [])
  | ']' :: ']' :: '>' :: s => ([], s)
  | c :: s => let (run, rest) := characterSection s; (c :: run, rest)

/-- The tokens after `<!`; `allowsSections` says that sections of characters are allowed. -/
def declaration (allowsSections : Bool) (text : List Char → List Token) (s : List Char) :
    List Token × List Char :=
  match s with
  | '-' :: '-' :: rest => ([.comment], afterCommentStart rest)
  | _ =>
    if startsWithWord "doctype".toList s then
      let s := s.drop 7
      ([.doctype (doctypeOf (s.takeWhile (· ≠ '>')))], afterBracket s)
    else if allowsSections && "[CDATA[".toList.isPrefixOf s then
      let (run, rest) := characterSection (s.drop 7)
      (text run, rest)
    else ([.comment], afterBracket s)

/-! ### Text -/

/-- Puts a character before a sequence of tokens. -/
def consChar (c : Char) : List Token → List Token
  | .text space run :: tokens =>
    if isSpace c = space then .text space (c :: run) :: tokens
    else .text (isSpace c) [c] :: .text space run :: tokens
  | tokens => .text (isSpace c) [c] :: tokens

/-- Characters as tokens. -/
def ofChars (s : List Char) : List Token :=
  s.foldr (fun c tokens => if c.toNat = 0 then .null :: tokens else consChar c tokens) []

/-- Characters as one token, spaces or not. -/
def ofRun (s : List Char) : List Token :=
  if s.isEmpty then [] else [.text false (s.map withoutNull)]

/-- Whether a text, read after `<`, is the end tag of a name. -/
def isEndTagOf (name : List Char) : List Char → Bool
  | '/' :: s =>
    startsWithWord name s &&
      match s.drop name.length with
      | c :: _ => endsName c
      | [] => false
  | _ => false

/-- The characters before the end tag of a name, and the rest. -/
def upToEndTag (name : List Char) : List Char → List Char × List Char
  | [] => ([], [])
  | c :: s =>
    if c = '<' && isEndTagOf name s then ([], c :: s)
    else let (run, rest) := upToEndTag name s; (c :: run, rest)

/-- How far a comment within a script hides end tags. -/
inductive Hiding where
  /-- Outside of comments. -/
  | none
  /-- In a comment, which hides nothing yet. -/
  | comment
  /-- Within a script in a comment: end tags are hidden. -/
  | script
  deriving DecidableEq, Repr

/-- Whether a text starts with the name of the script element and something that ends it. -/
def isScriptName (s : List Char) : Bool := isEndTagOf "script".toList ('/' :: s)

/-- The characters of a script before its end tag, and the rest; `dashes` are the dashes
just read in a comment. -/
def upToScriptEnd (level : Hiding) (dashes : Nat) : List Char → List Char × List Char
  | [] => ([], [])
  | c :: s =>
    let go (level : Hiding) (dashes : Nat) : List Char × List Char :=
      let (run, rest) := upToScriptEnd level dashes s
      (c :: run, rest)
    match level with
    | .none =>
      if c = '<' && isScriptName (s.drop 1) && s.head? = some '/' then ([], c :: s)
      -- The two dashes that open a comment may be part of those that close it.
      else if c = '<' && "!--".toList.isPrefixOf s then go .comment 0
      else go .none 0
    | .comment =>
      if c = '<' && isScriptName (s.drop 1) && s.head? = some '/' then ([], c :: s)
      else if c = '<' && isScriptName s then go .script 0
      else if c = '>' && 2 ≤ dashes then go .none 0
      else go .comment (if c = '-' then dashes + 1 else 0)
    | .script =>
      if c = '<' && isScriptName (s.drop 1) && s.head? = some '/' then go .comment 0
      else if c = '>' && 2 ≤ dashes then go .none 0
      else go .script (if c = '-' then dashes + 1 else 0)

/-! ### Markup -/

/-- Whether a character may start the name of a tag. -/
def startsName (c : Char) : Bool := c.isAlpha

/-- The tokens after `<`. -/
def afterAngle (allowsSections : Bool) (s : List Char) : List Token × List Char :=
  match s with
  | '!' :: rest => declaration allowsSections ofChars rest
  | '/' :: [] => (ofChars ['<', '/'], [])
  | '/' :: '>' :: rest => ([], rest)
  | '/' :: c :: rest =>
    if startsName c then
      match tag? (c :: rest) with
      | some (tag, rest) => ([.endTag tag], rest)
      | none => ([], [])
    else ([.comment], afterBracket (c :: rest))
  | '?' :: rest => ([.comment], afterBracket rest)
  | c :: rest =>
    if startsName c then
      match tag? (c :: rest) with
      | some (tag, rest) => ([.startTag tag], rest)
      | none => ([], [])
    else (ofChars ['<'], c :: rest)
  | [] => (ofChars ['<'], [])

/-- The tokens at the start of markup, and the rest. -/
def nextOfMarkup (allowsSections : Bool) (s : List Char) : List Token × List Char :=
  match s with
  | [] => ([.endOfText], [])
  | '<' :: rest => afterAngle allowsSections rest
  | _ => (ofChars (Reference.decode false (s.takeWhile (· ≠ '<'))), s.dropWhile (· ≠ '<'))

/-- Text before an end tag, or the end tag itself, or the end. -/
def nextOfText (text : List Char → List Char) (run rest : List Char) : List Token × List Char :=
  match run, rest with
  | [], [] => ([.endOfText], [])
  | [], rest => nextOfMarkup false rest
  | run, rest => (ofRun (text run), rest)

/-- The tokens at the start of a text, and the rest. -/
def next (content : Content) (allowsSections : Bool) (s : List Char) : List Token × List Char :=
  match content with
  | .markup => nextOfMarkup allowsSections s
  | .escapable name =>
    let (run, rest) := upToEndTag name.toList s
    nextOfText (Reference.decode false) run rest
  | .raw name => let (run, rest) := upToEndTag name.toList s; nextOfText id run rest
  | .script => let (run, rest) := upToScriptEnd .none 0 s; nextOfText id run rest
  | .plain => if s.isEmpty then ([.endOfText], []) else (ofRun s, [])

end Token

end VideoPosters.Html
