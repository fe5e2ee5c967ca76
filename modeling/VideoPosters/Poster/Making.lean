import VideoPosters.Poster.Placing
import VideoPosters.Template.Shelf
import VideoPosters.Template.Site
import VideoPosters.Video.Service
import VideoPosters.Waiting

/-!
# Making posters

Posters are made from a template and from the metadata of the videos that links lead to.
Both are waited for at once.  A template that cannot be found or does not compile is noticed
before anything is asked for.

## Main definitions

* `Sources` — where templates and metadata come from.
* `Sources.ofServices` — the site of the templates and the service of the metadata.
* `Inquiry`, `Sources.ask` — an outcome, with all that was asked of the metadata on the way.
* `Sources.linkedVideos` — links with the metadata of their videos.
* `Making`, `makePosters` — the posters for some links, and what was done on the way.
-/

namespace VideoPosters

/-- Where templates and metadata come from. -/
structure Sources where
  /-- The text of an embedded template. -/
  embedded? : String → Option String
  /-- The text of the template at a path, or the reason why there is none. -/
  template : String → Delayed (Except String String)
  /-- The metadata of some videos. -/
  videos : List String → Delayed (Except Failure (List Video.Item))

/-- An outcome, how long it takes, and the lists of videos whose metadata was asked for on the
way to it, in order. -/
structure Inquiry (α : Type) extends Delayed α where
  asked : List (List String)
  deriving Repr

/-- The inquiry with another outcome. -/
def Inquiry.map {α β : Type} (f : α → β) (q : Inquiry α) : Inquiry β :=
  ⟨q.toDelayed.map f, q.asked⟩

@[simp] theorem Inquiry.map_outcome {α β : Type} (f : α → β) (q : Inquiry α) :
    (q.map f).outcome = f q.outcome := rfl

namespace Sources

/-- The template at a path of a site. -/
def templateOf (site : Template.Site) (web : Web) (path : String) :
    Web.Exchange (Except String String) :=
  (site.fetch web path).map (·.mapError Failure.message)

/-- The site of the templates and the service of the metadata. -/
def ofServices (embedded? : String → Option String) (site : Template.Site)
    (service : Video.Service) (web : Web) : Sources where
  embedded?
  template path := (templateOf site web path).toDelayed
  videos ids := (service.fetch web ids).toDelayed

/-- Asks for the metadata of some videos. -/
def ask (sources : Sources) (ids : List String) : Inquiry (Except Failure (List Video.Item)) :=
  ⟨sources.videos ids, [ids]⟩

/-- Links with the metadata of their videos, which is asked for once. -/
def linkedVideos (sources : Sources) (links : List Link) :
    Inquiry (Except Failure (List LinkedVideo)) :=
  (sources.ask (videoIds links)).map (·.map (linkVideos links))

end Sources

/-! ### Templates -/

/-- A template that is waited for. -/
structure AwaitedTemplate where
  /-- The path at which it is fetched, if it is. -/
  path : Option String
  tokens : Delayed (Except Failure (List Template.Token))
  /-- The shelf while it is waited for. -/
  before : Template.Shelf
  /-- The shelf once it is there. -/
  after : Template.Shelf

/-- The template of a choice. -/
def awaitTemplate (sources : Sources) (shelf : Template.Shelf) :
    TemplateChoice → Except Failure AwaitedTemplate × Template.Shelf
  | .compiled tokens => (.ok ⟨none, .now (.ok tokens), shelf, shelf⟩, shelf)
  | .specifier spec =>
    match shelf.resolve sources.embedded? spec with
    | (.error e, shelf) => (.error e, shelf)
    | (.ok (.ready template), shelf) =>
      (.ok ⟨none, .now (.ok template.tokens), shelf, shelf⟩, shelf)
    | (.ok (.toFetch path), shelf) =>
      let arrival := sources.template path
      let (outcome, after) := shelf.receive path arrival.outcome
      (.ok ⟨some path, ⟨arrival.rounds, outcome.map (·.tokens)⟩, shelf, after⟩, shelf)

/-! ### Posters -/

/-- The posters for some links, and what was done on the way. -/
structure Making where
  shelf : Template.Shelf
  /-- The path at which the template was fetched, if it was. -/
  fetched : Option String
  /-- The lists of videos whose metadata was asked for. -/
  asked : List (List String)
  /-- The rounds in which something was waited for. -/
  rounds : Nat
  deeds : List Deed
  outcome : Except Failure (List Poster)

/-- The posters for some links.  `refusal?` gives the reason for which the page refuses a
placement, by the number of placements before; `count` were asked for before. -/
def makePosters (sources : Sources) (refusal? : Nat → Option String) (options : Options)
    (links : List Link) (count : Nat) (shelf : Template.Shelf) : Making :=
  match awaitTemplate sources shelf options.template with
  | (.error e, shelf) => ⟨shelf, none, [], 0, [], .error e⟩
  | (.ok template, _) =>
    let videos := sources.linkedVideos links
    let both := template.tokens.both videos.toDelayed
    let isReached := template.tokens.isReached videos.toDelayed
    let shelf := if isReached then template.after else template.before
    let asked := if template.tokens.isAsked then videos.asked else []
    let (deeds, outcome) := match both.outcome with
      | .error e => ([], .error e)
      | .ok (tokens, videos) => placePosters refusal? options tokens count videos
    ⟨shelf, template.path, asked, both.rounds, deeds, outcome⟩

end VideoPosters
