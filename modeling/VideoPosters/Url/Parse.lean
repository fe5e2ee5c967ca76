import VideoPosters.Url.Host

/-!
# Reading URLs

A text is read as a URL on its own or relative to a base, after the rules of the URL
standard.  Blanks and controls at its ends and all tabs and line breaks are dropped
first.

## Main definitions

* `Url.parse` — the URL of a text.
* `Url.join` — the URL of a text relative to a base.
* `walk` — the segments that a path adds to those before it.
-/

namespace VideoPosters.Url

open Text (splitAt)

/-! ### Preparation -/

/-- Blanks and controls that are dropped at the ends of the text. -/
def isTrimmed (c : Char) : Bool := c.toNat ≤ 0x20

/-- The characters that are read: without those dropped. -/
def prepare (s : List Char) : List Char :=
  ((s.dropWhile isTrimmed).reverse.dropWhile isTrimmed).reverse.filter fun c =>
    !(c = '\t' || c = '\n' || c = '\r')

/-- The characters of a scheme after the first. -/
def isSchemeChar (c : Char) : Bool := c.isAlphanum || c = '+' || c = '-' || c = '.'

/-- The scheme at the start of a text, in lower case, and the text after its colon. -/
def splitScheme? (s : List Char) : Option (List Char × List Char) :=
  match s with
  | c :: _ =>
    if c.isAlpha then
      match s.dropWhile isSchemeChar with
      | ':' :: rest => some ((s.takeWhile isSchemeChar).map Char.toLower, rest)
      | _ => none
    else none
  | [] => none

/-- Whether a character separates path segments. -/
def isSlash (kind : SchemeKind) (c : Char) : Bool := c = '/' || (kind.isSpecial && c = '\\')

/-- Whether a character starts the query or the fragment. -/
def endsPath (c : Char) : Bool := c = '?' || c = '#'

/-! ### Paths -/

/-- Spellings of the segment `.`. -/
def isSingleDot (s : List Char) : Bool :=
  let t := String.ofList (s.map Char.toLower)
  t = "." || t = "%2e"

/-- Spellings of the segment `..`. -/
def isDoubleDot (s : List Char) : Bool :=
  let t := String.ofList (s.map Char.toLower)
  t = ".." || t = ".%2e" || t = "%2e." || t = "%2e%2e"

/-- A drive letter: a letter, then `:` or `|`. -/
def isDriveLetter : List Char → Bool
  | [a, b] => a.isAlpha && (b = ':' || b = '|')
  | _ => false

/-- A drive letter with a colon. -/
def isNormalDriveLetter : List Char → Bool
  | [a, ':'] => a.isAlpha
  | _ => false

/-- The segments without the last one.  Under the scheme `file` a drive letter stays. -/
def shorten (kind : SchemeKind) (segments : List (List Char)) : List (List Char) :=
  match segments.getLast? with
  | none => []
  | some last =>
    if kind = .file && isNormalDriveLetter last then segments else segments.dropLast

/-- The pieces of a path between its slashes. -/
def pathPieces (kind : SchemeKind) : List Char → List (List Char)
  | [] => [[]]
  | c :: rest =>
    if isSlash kind c then [] :: pathPieces kind rest
    else match pathPieces kind rest with
      | [] => [[c]]
      | piece :: pieces => (c :: piece) :: pieces

/-- The segments that a path given in pieces adds to those before it. -/
def walk (kind : SchemeKind) (done : List (List Char)) : List (List Char) → List (List Char)
  | [] => done
  | piece :: pieces =>
    let isLast := pieces.isEmpty
    if isDoubleDot piece then
      let up := shorten kind done
      walk kind (if isLast then up ++ [[]] else up) pieces
    else if isSingleDot piece then walk kind (if isLast then done ++ [[]] else done) pieces
    else if kind = .file && done.isEmpty && isDriveLetter piece then
      walk kind (done ++ [piece.take 1 ++ [':']]) pieces
    else walk kind (done ++ [percentEncode inPathSet piece]) pieces

/-- A path of the scheme `file` has no empty segments at its start. -/
def dropEmptyStart : List (List Char) → List (List Char)
  | [] :: s :: rest => dropEmptyStart (s :: rest)
  | segments => segments

/-- The path that a text adds to the segments before it. -/
def pathFrom (kind : SchemeKind) (done : List (List Char)) (s : List Char) : Path :=
  let segments := walk kind done (pathPieces kind s)
  .segments (if kind = .file then dropEmptyStart segments else segments)

/-! ### Query and fragment -/

/-- The query and the fragment of a text that is empty or starts with one of their marks. -/
def queryAndFragment (kind : SchemeKind) (s : List Char) :
    Option (List Char) × Option (List Char) :=
  let fragmentOf (s : List Char) : Option (List Char) := match s with
    | '#' :: f => some (percentEncode inFragmentSet f)
    | _ => none
  match s with
  | '?' :: rest =>
    let q := rest.takeWhile (· ≠ '#')
    let inSet := if kind.isSpecial then inSpecialQuerySet else inQuerySet
    (some (percentEncode inSet q), fragmentOf (rest.dropWhile (· ≠ '#')))
  | s => (none, fragmentOf s)

/-- A URL with the path, query and fragment of a text whose path goes on after the given
segments. -/
def withPathFrom (url : Url) (done : List (List Char)) (s : List Char) : Url :=
  let kind := schemeKind url.scheme
  let (query, fragment) := queryAndFragment kind (s.dropWhile (!endsPath ·))
  { url with
    path := pathFrom kind done (s.takeWhile (!endsPath ·)), query := query, fragment := fragment }

/-- A URL with the query and fragment of a text. -/
def withQueryFrom (url : Url) (s : List Char) : Url :=
  let (query, fragment) := queryAndFragment (schemeKind url.scheme) s
  { url with query := query, fragment := fragment }

/-! ### Authority -/

/-- What stands between `//` and the path. -/
structure Authority where
  username : List Char
  password : List Char
  host : Host
  port : Option Nat

/-- User name and password of a text before `@`. -/
def credentials (s : List Char) : List Char × List Char :=
  let encode := percentEncode inUserinfoSet
  match s.dropWhile (· ≠ ':') with
  | _ :: password => (encode (s.takeWhile (· ≠ ':')), encode password)
  | [] => (encode s, [])

/-- The text before and after the last `@`. -/
def splitLastAt? (s : List Char) : Option (List Char × List Char) :=
  let after := (s.reverse.takeWhile (· ≠ '@')).reverse
  if after.length = s.length then none else some (s.take (s.length - after.length - 1), after)

/-- The host at the start of a text, up to a colon outside brackets, and the text after
it. -/
def splitHost (inBrackets : Bool) : List Char → List Char × List Char
  | [] => ([], [])
  | c :: rest =>
    if c = ':' && !inBrackets then ([], c :: rest)
    else
      let inBrackets := if c = '[' then true else if c = ']' then false else inBrackets
      let (host, after) := splitHost inBrackets rest
      (c :: host, after)

/-- The port of a text of digits; a text without digits has none. -/
def port? (scheme : List Char) (s : List Char) : Except Error (Option Nat) :=
  if s.isEmpty then .ok none
  else match digitsInBase? 10 s with
    | some n =>
      if 65535 < n then .error .invalidPort
      else .ok (if defaultPort? scheme = some n then none else some n)
    | none => .error .invalidPort

/-- The authority at the start of a text, and the text after it. -/
def authority? (scheme : List Char) (s : List Char) : Except Error (Authority × List Char) := do
  let kind := schemeKind scheme
  let isEnd (c : Char) : Bool := isSlash kind c || endsPath c
  let text := s.takeWhile (!isEnd ·)
  let after := s.dropWhile (!isEnd ·)
  let ((username, password), hostAndPort) ← match splitLastAt? text with
    | none => .ok (([], []), text)
    | some (before, hostAndPort) =>
      if before.isEmpty && hostAndPort.isEmpty && !after.isEmpty then .error .emptyHost
      else .ok (credentials before, hostAndPort)
  let (hostText, portText) := splitHost false hostAndPort
  if hostText.isEmpty && kind = .special then throw .emptyHost
  let host ← if kind = .other then Host.ofOther? hostText else Host.ofSpecial? hostText
  if hostText.isEmpty && !portText.isEmpty then throw .emptyHost
  -- A backslash ends the port under any scheme, although it ends the host of a special
  -- one only.
  let portDigits := (portText.drop 1).takeWhile (· ≠ '\\')
  let port ← port? scheme portDigits
  if hostText.isEmpty && !(username.isEmpty && password.isEmpty) then throw .emptyHost
  .ok (⟨username, password, host, port⟩, (portText.drop 1).dropWhile (· ≠ '\\') ++ after)

/-- The URL of a text after `//`. -/
def afterDoubleSlash (scheme : List Char) (s : List Char) : Except Error Url := do
  let (authority, rest) ← authority? scheme s
  let url : Url := ⟨scheme, authority.username, authority.password, some authority.host,
    authority.port, .segments [], none, none⟩
  let kind := schemeKind scheme
  match rest with
  | c :: rest' =>
    if isSlash kind c then .ok (withPathFrom url [] rest')
    else if kind = .other && endsPath c then .ok (withQueryFrom url rest)
    else .ok (withPathFrom url [] rest)
  | [] => .ok (if kind = .other then url else withPathFrom url [] [])

/-! ### Relative references -/

/-- The segments of a path. -/
def Path.toSegments : Path → List (List Char)
  | .segments parts => parts
  | .opaquePath _ => []

/-- The URL of a text relative to a base of a scheme other than `file`. -/
def relative (base : Url) (s : List Char) : Except Error Url :=
  match s with
  | [] => .ok { base with fragment := none }
  | '#' :: _ => .ok { base with fragment := (queryAndFragment .other s).2 }
  | '?' :: _ => .ok (withQueryFrom base s)
  | '/' :: '/' :: rest => afterDoubleSlash base.scheme rest
  | a :: rest =>
    if a = '/' || a = '\\' then
      match rest with
      | b :: _ =>
        if b = '/' || b = '\\' then
          afterDoubleSlash base.scheme (rest.dropWhile fun c => c = '/' || c = '\\')
        else .ok (withPathFrom base [] rest)
      | [] => .ok (withPathFrom base [] [])
    else .ok (withPathFrom base base.path.toSegments.dropLast s)

/-! ### Files -/

/-- Whether a text starts with a drive letter that is a whole segment. -/
def startsWithDriveLetter : List Char → Bool
  | a :: b :: rest =>
    isDriveLetter [a, b] && match rest with
      | [] => true
      | c :: _ => c = '/' || c = '\\' || endsPath c
  | _ => false

/-- The URL of the scheme `file` with the given host and nothing else. -/
def fileUrl (host : Host) : Url :=
  ⟨"file".toList, [], [], some host, none, .segments [], none, none⟩

/-- A host gives way to a drive letter at the start of the path. -/
def dropHostForDrive (url : Url) : Url :=
  match url.path with
  | .segments (first :: _) =>
    if isNormalDriveLetter first then { url with host := some (.name []) } else url
  | _ => url

/-- The URL of the scheme `file` for a text after two slashes. -/
def fileAfterDoubleSlash (s : List Char) : Except Error Url := do
  let isEnd (c : Char) : Bool := c = '/' || c = '\\' || endsPath c
  let hostText := s.takeWhile (!isEnd ·)
  let rest := s.dropWhile (!isEnd ·)
  if isDriveLetter hostText then return withPathFrom (fileUrl (.name [])) [] s
  if hostText.isEmpty then return withPathFrom (fileUrl (.name [])) [] rest
  let host ← Host.ofSpecial? hostText
  if host = .name "localhost".toList then return withPathFrom (fileUrl (.name [])) [] rest
  let path := match rest with
    | c :: rest' => if c = '/' || c = '\\' then rest' else rest
    | [] => []
  return dropHostForDrive (withPathFrom (fileUrl host) [] path)

/-- The URL of a text of the scheme `file`, perhaps relative to a base of that scheme. -/
def file (base : Option Url) (s : List Char) : Except Error Url :=
  match s with
  | a :: rest =>
    if a = '/' || a = '\\' then
      match rest with
      | b :: rest' =>
        if b = '/' || b = '\\' then fileAfterDoubleSlash rest'
        else .ok (singleSlash rest)
      | [] => .ok (singleSlash rest)
    else match base with
      | none => .ok (withPathFrom (fileUrl (.name [])) [] s)
      | some base =>
        if a = '?' then .ok (withQueryFrom base s)
        else if a = '#' then .ok { base with fragment := (queryAndFragment .other s).2 }
        else if startsWithDriveLetter s then .ok (withPathFrom (fileUrl (.name [])) [] s)
        else .ok (withPathFrom base (shorten .file base.path.toSegments) s)
  | [] => match base with
    | none => .ok (withPathFrom (fileUrl (.name [])) [] [])
    | some base => .ok { base with fragment := none }
where
  /-- The URL of a text after a single slash. -/
  singleSlash (rest : List Char) : Url :=
    match base with
    | none => withPathFrom (fileUrl (.name [])) [] rest
    | some base =>
      if startsWithDriveLetter rest then withPathFrom (fileUrl (.name [])) [] rest
      else match base.path.toSegments with
        | first :: _ =>
          if isNormalDriveLetter first then withPathFrom (fileUrl (.name [])) [first] rest
          else withPathFrom (fileUrl (base.host.getD (.name []))) [] rest
        | [] => withPathFrom (fileUrl (base.host.getD (.name []))) [] rest

/-! ### URLs -/

/-- The URL of a text after its scheme. -/
def afterScheme (base : Option Url) (scheme s : List Char) : Except Error Url :=
  match schemeKind scheme with
  | .file => file (base.filter fun b => schemeKind b.scheme = .file) s
  | .special =>
    let slashes := s.takeWhile (isSlash .special)
    match base with
    | some base =>
      if slashes.length < 2 && base.scheme = scheme then relative base s
      else afterDoubleSlash scheme (s.dropWhile (isSlash .special))
    | none => afterDoubleSlash scheme (s.dropWhile (isSlash .special))
  | .other =>
    let url : Url := ⟨scheme, [], [], none, none, .segments [], none, none⟩
    match s with
    | '/' :: '/' :: rest => afterDoubleSlash scheme rest
    | '/' :: rest => .ok (withPathFrom url [] rest)
    | _ => .ok (withQueryFrom
        { url with path := .opaquePath (percentEncode inControlSet (s.takeWhile (!endsPath ·))) }
        (s.dropWhile (!endsPath ·)))

/-- The URL of a text without a scheme. -/
def withoutScheme (base : Option Url) (s : List Char) : Except Error Url :=
  match base with
  | none => .error .relativeWithoutBase
  | some base =>
    match s, base.path with
    | '#' :: _, _ => .ok { base with fragment := (queryAndFragment .other s).2 }
    | _, .opaquePath _ => .error .relativeWithOpaqueBase
    | _, .segments _ =>
      if schemeKind base.scheme = .file then file (some base) s else relative base s

/-- The URL of a text, perhaps relative to a base. -/
def parseWith (base : Option Url) (text : String) : Except Error Url :=
  let s := prepare text.toList
  match splitScheme? s with
  | some (scheme, rest) => afterScheme base scheme rest
  | none => withoutScheme base s

/-- The URL of a text. -/
def parse (text : String) : Except Error Url := parseWith none text

/-- The URL of a text relative to a base. -/
def join (base : Url) (text : String) : Except Error Url := parseWith (some base) text

end VideoPosters.Url
