import VideoPosters.Link
import VideoPosters.Options
import VideoPosters.Video

/-!
# Posters

A poster is the rendered template of a video, made for a link that leads to it.

## Main definitions

* `videoIds` — the videos that links lead to.
* `LinkedVideo`, `linkVideos` — links with the metadata of their videos.
* `Poster`, `Poster.make` — a poster, and how it is rendered.
* `PlayerRequest`, `Poster.playerRequest` — the player that replaces a poster.
-/

namespace VideoPosters

/-! ### Videos of links -/

/-- Adds an identifier to a list unless it is there. -/
def addId (ids : List String) (id : String) : List String :=
  if ids.contains id then ids else ids ++ [id]

/-- The identifiers of the videos that links lead to, each once, in the order in which
they first occur. -/
def videoIds (links : List Link) : List String :=
  (links.filterMap Link.videoId?).foldl addId []

/-- The last item with an identifier. -/
def lastItem? (id : String) (items : List Video.Item) : Option Video.Item :=
  items.reverse.find? (·.id = id)

/-- A link with the video it leads to. -/
structure LinkedVideo where
  link : Link
  video : Video
  deriving Repr, Inhabited

/-- A link with its video, if there is metadata of it. -/
def linkVideo? (items : List Video.Item) (link : Link) : Option LinkedVideo := do
  let id ← link.videoId?
  let item ← lastItem? id items
  return ⟨link, Video.ofItem item⟩

/-- The links whose videos there is metadata of, in order. -/
def linkVideos (links : List Link) (items : List Video.Item) : List LinkedVideo :=
  links.filterMap (linkVideo? items)

/-! ### Posters -/

/-- A poster. -/
structure Poster where
  video : Video
  markup : String
  placer : Option Placer
  onclick : Option ClickHandler
  deriving Repr, Inhabited

/-- What a player is asked for. -/
structure PlayerRequest where
  videoId : String
  /-- The selector of the element that the player replaces. -/
  target : String
  width : Nat
  height : Nat
  deriving DecidableEq, Repr

namespace Poster

/-- The identifier of the video. -/
def videoId (p : Poster) : String := p.video.item.id

/-- The identifier of the poster's element. -/
def posterId (p : Poster) : String := p.video.posterId

/-- The poster of a video. -/
def make (options : Options) (template : List Template.Token) (video : Video) : Poster where
  video
  markup := String.ofList (Template.render template video.templateData)
  placer := options.placer
  onclick := options.onclick

/-- The player that replaces a poster. -/
def playerRequest (p : Poster) (options : Options) : PlayerRequest :=
  ⟨p.videoId, "#" ++ p.posterId ++ " " ++ options.posterSelector, options.playerWidth,
    options.playerHeight⟩

end Poster

end VideoPosters
