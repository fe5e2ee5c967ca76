import VideoPosters.Text.Pieces

/-!
# Links to videos

A link to a video has one of four shapes: a fixed start, compared without regard to
case, then the video's identifier, which goes on to the first delimiter.

Case is compared by simple case folding, under which the long s `ſ` is an `s` and the
Kelvin sign is a `k`.

## Main definitions

* `Link.Shape` — the four shapes, in the order in which they are tried.
* `Link.Shape.capture?` — the identifier that a shape finds in an address.
* `Link.match?` — the first shape that finds one, and the identifier.
* `Link` — an address and the text that stands for it on a page.
-/

namespace VideoPosters

/-- A link of a page: an address, and the text shown for it. -/
structure Link where
  href : String
  text : Option String
  deriving DecidableEq, Repr, Inhabited

namespace Link

/-- The shapes of video links. -/
inductive Shape where
  /-- The page of a video: `youtube.com/watch?v=ID`. -/
  | standard
  /-- The older address of a video: `youtube.com/v/ID`. -/
  | alternate
  /-- The short address of a video: `youtu.be/ID`. -/
  | short
  /-- The address for embedding a video: `youtube.com/embed/ID`. -/
  | embed
  deriving DecidableEq, Repr

/-- The shapes in the order in which they are tried. -/
def Shape.all : List Shape := [.standard, .alternate, .short, .embed]

/-- The name of a shape. -/
def Shape.name : Shape → String
  | .standard => "Standard"
  | .alternate => "Alternate"
  | .short => "Short"
  | .embed => "Embed"

/-- The simple case folding of the characters that fold to ASCII. -/
def fold (c : Char) : Char :=
  if c = '\u017F' then 's' else if c = '\u212A' then 'k' else c.toLower

/-- What follows a fixed start, compared without regard to case. -/
def afterStart? : List Char → List Char → Option (List Char)
  | [], s => some s
  | _ :: _, [] => none
  | p :: ps, c :: cs => if fold c = p then afterStart? ps cs else none

/-- What follows a start that need not be there. -/
def afterOptional (start s : List Char) : List Char := (afterStart? start s).getD s

/-- Whether a shape's host may be preceded by `www.`. -/
def Shape.allowsWww : Shape → Bool
  | .short => false
  | _ => true

/-- The host of a shape and the path up to the identifier. -/
def Shape.hostAndPath : Shape → List Char
  | .standard => "youtube.com/watch?v=".toList
  | .alternate => "youtube.com/v/".toList
  | .short => "youtu.be/".toList
  | .embed => "youtube.com/embed/".toList

/-- The characters that end an identifier. -/
def Shape.isDelimiter : Shape → Char → Bool
  | .standard, c => c = '?' || c = '&' || c = '#'
  | _, c => c = '/' || c = '?' || c = '&' || c = '#'

/-- What follows the start of an address of a shape. -/
def Shape.afterPrefix? (shape : Shape) (s : List Char) : Option (List Char) := do
  let s ← afterStart? "http".toList s
  let s ← afterStart? "://".toList (afterOptional ['s'] s)
  let s := if shape.allowsWww then afterOptional "www.".toList s else s
  afterStart? shape.hostAndPath s

/-- The identifier that a shape finds in an address given as characters. -/
def Shape.captureChars? (shape : Shape) (s : List Char) : Option (List Char) := do
  let rest ← shape.afterPrefix? s
  let identifier := rest.takeWhile (!shape.isDelimiter ·)
  if identifier.isEmpty then none else some identifier

/-- The identifier that a shape finds in an address. -/
def Shape.capture? (shape : Shape) (address : String) : Option String :=
  (shape.captureChars? address.toList).map String.ofList

/-- The first of some shapes that finds an identifier, and the identifier. -/
def matchFirst? (address : String) : List Shape → Option (Shape × String)
  | [] => none
  | shape :: shapes =>
    match shape.capture? address with
    | some identifier => some (shape, identifier)
    | none => matchFirst? address shapes

/-- The first shape that finds an identifier, and the identifier. -/
def match? (address : String) : Option (Shape × String) := matchFirst? address Shape.all

/-- The identifier of the video that a link leads to. -/
def videoId? (link : Link) : Option String := (match? link.href).map (·.2)

/-- Whether a link leads to a video. -/
def isVideoLink (link : Link) : Bool := link.videoId?.isSome

/-- A link of which only the address is known. -/
def ofHref (href : String) : Link := ⟨href, none⟩

end Link

end VideoPosters
