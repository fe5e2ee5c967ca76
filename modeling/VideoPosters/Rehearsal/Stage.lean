import VideoPosters.Player.Click
import VideoPosters.Player.Script
import VideoPosters.Poster.Making
import VideoPosters.Rehearsal.Fetching
import VideoPosters.Rehearsal.Loading

/-!
# Rehearsals of making posters and playing videos

A stage holds all that one page needs: the templates at hand, the posters made so far, the
clicks on them and the player loader.  Templates, metadata and the script of the player
come from a supply, which is either laid down beforehand or reached over the web.

## Main definitions

* `Rehearsal.Supply` — where a stage gets templates, metadata and the script from.
* `Rehearsal.Page` — what the page refuses.
* `Rehearsal.Stage` — all that one page needs.
* `Rehearsal.Event` — what can be noticed of an act.
* `Rehearsal.Stage.Act`, `Rehearsal.Stage.perform` — what is done in a rehearsal.
-/

namespace VideoPosters.Rehearsal

open Player

/-- Where a stage gets templates, metadata and the script from. -/
inductive Supply where
  /-- All is laid down beforehand. -/
  | laidDown (arrivals : List (String × List Arrival))
      (videos : Delayed (Except Failure (List Video.Item))) (injection : Injection)
  /-- All is asked for over the web. -/
  | overWeb (site : Template.Site) (service : Video.Service) (web : Web)

namespace Supply

/-- The supply over the web that settings describe. -/
def ofSettings (settings : Settings) (web : Web) : Except Failure Supply := do
  let site ← Template.Site.ofText settings.templateBaseUrl
  let service ← Video.Service.ofSettings settings
  return .overWeb site service web

/-- Where templates and metadata come from, after some paths were fetched. -/
def sources (embedded? : String → Option String) (fetched : List String) : Supply → Sources
  | .laidDown arrivals videos _ =>
    ⟨embedded?, fun path => arrivalOf arrivals path (fetched.count path), fun _ => videos⟩
  | .overWeb site service web => .ofServices embedded? site service web

/-- How the injection of a script goes. -/
def injection (scriptUrl : String) : Supply → Injection
  | .laidDown _ _ injection => injection
  | .overWeb _ _ web => ⟨false, (injectScript web scriptUrl).outcome⟩

/-- Whether it is noticed what a supply is asked for. -/
def isNoticed : Supply → Bool
  | .laidDown .. => true
  | .overWeb .. => false

/-- The requests that fetch a template, if one is fetched, and ask for the metadata of some
videos; none if the supply does not reach the web. -/
def requests (path : Option String) (ids : List String) : Supply → Option (List Web.Request)
  | .laidDown .. => none
  | .overWeb site service web =>
    some ((path.map fun path => (Sources.templateOf site web path).requests).getD [] ++
      (service.fetch web ids).requests)

end Supply

/-- What the page refuses. -/
structure Page where
  /-- The reason for which a placement is refused, by the number of placements before. -/
  placement? : Nat → Option String
  /-- The reason for which players are refused. -/
  player : Option String

/-- All that one page needs. -/
structure Stage where
  supply : Supply
  embedded? : String → Option String
  page : Page
  links : List Link
  shelf : Template.Shelf
  /-- The paths fetched so far. -/
  fetched : List String
  loading : Loading
  /-- The number of placements that the page was asked for. -/
  placements : Nat
  posters : List Poster
  clicks : List Click

/-- What can be noticed of an act. -/
inductive Event where
  /-- The template at a path is fetched. -/
  | fetch (path : String)
  /-- The metadata of some videos is asked for. -/
  | metadata (ids : List String)
  /-- The page is asked to place a poster. -/
  | place (link : Link) (poster : Poster) (placer : Placer)
  /-- The injection of a script begins. -/
  | inject (scriptUrl : String)
  /-- The page is asked to create a player. -/
  | player (creation : Creation)

namespace Stage

/-- A stage on which nothing has been done. -/
def start (supply : Supply) (embedded? : String → Option String) (page : Page)
    (links : List Link) (scriptUrl : String) : Stage :=
  ⟨supply, embedded?, page, links, Template.Shelf.empty, [],
    Loading.ofScript (supply.injection scriptUrl) scriptUrl, 0, [], []⟩

/-- The links of some numbers, or all of them. -/
def linksAt (s : Stage) : Option (List Nat) → Option (List Link)
  | none => some s.links
  | some numbers => numbers.mapM fun i => s.links[i]?

/-- Where templates and metadata come from now. -/
def sources (s : Stage) : Sources := s.supply.sources s.embedded? s.fetched

/-- The event that can be noticed when the supply is asked for something. -/
def noticed (s : Stage) (event : Event) : List Event := if s.supply.isNoticed then [event] else []

/-! ### Tasks -/

/-- The beginning of injections as events. -/
def injections (s : Stage) (scripts : List String) : List Event :=
  scripts.flatMap fun url => s.noticed (.inject url)

/-- Lets the tasks run. -/
def runTasks (s : Stage) : List Event × Stage :=
  let (scripts, loading) := s.loading.runTasks
  (s.injections scripts, { s with loading })

/-- Lets the tasks run if something was waited for. -/
def runTasksAfter (rounds : Nat) (s : Stage) : List Event × Stage :=
  if rounds = 0 then ([], s) else s.runTasks

/-! ### Clicks -/

/-- What a click has come to; none if there was no such click. -/
def pollClick (i : Nat) (s : Stage) : Option (Click.Status × List Event × Stage) := do
  let click ← s.clicks[i]?
  let (status, creation, click, run) := click.poll s.page.player s.loading.run
  return (status, creation.toList.map .player,
    { s with loading := { s.loading with run }, clicks := s.clicks.set i click })

/-- Waits for a click: if it is pending, the tasks are run. -/
def awaitClick (i : Nat) (s : Stage) : Option (Click.Status × List Event × Stage) := do
  match ← s.pollClick i with
  | (.pending, before, s) =>
    let (begun, s) := s.runTasks
    let (status, after, s) ← s.pollClick i
    return (status, before ++ begun ++ after, s)
  | settled => return settled

/-! ### Acts -/

/-- What is done in a rehearsal. -/
inductive Act where
  /-- Asks for the metadata of the videos of some links. -/
  | metadata (numbers : Option (List Nat))
  /-- Makes posters for some links. -/
  | posters (options : Options) (numbers : Option (List Nat))
  /-- Clicks on a poster, or replaces it whatever a click does. -/
  | click (poster : Nat) (options : Options) (isReplacement : Bool)
  | poll (i : Nat)
  | await (i : Nat)
  | signal
  | runTasks
  | release
  | contains (spec : String)

/-- What an act comes to. -/
inductive Reply where
  | nothing
  | videos (outcome : Except Failure (List LinkedVideo))
  | posters (deeds : List Deed) (outcome : Except Failure (List Poster))
  /-- The number of a new click, and what it has come to at once. -/
  | click (i : Nat) (status : Click.Status)
  | noSuchPoster
  | status (status : Click.Status)
  | flag (flag : Bool)

/-- What is known after an act. -/
structure Report where
  reply : Reply
  events : List Event
  /-- The requests that were answered, if the act succeeded over the web. -/
  requests : Option (List Web.Request)
  stage : Stage

/-- A report without requests. -/
def Report.ofEvents (reply : Reply) : List Event × Stage → Report
  | (events, stage) => ⟨reply, events, none, stage⟩

/-- A placement as an event. -/
def placement? : Deed → Option Event
  | .place link poster placer => some (.place link poster placer)
  | .present .. => none

/-- Asks for the metadata of the videos of some links. -/
def askMetadata (links : List Link) (s : Stage) : Report :=
  let videos := s.sources.linkedVideos links
  let (begun, after) := s.runTasksAfter videos.rounds
  let requests := match videos.outcome with
    | .ok _ => s.supply.requests none (videoIds links)
    | .error _ => none
  ⟨.videos videos.outcome, (videos.asked.map Event.metadata).flatMap s.noticed ++ begun, requests,
    after⟩

/-- Makes posters for some links. -/
def make (options : Options) (links : List Link) (s : Stage) : Report :=
  let making := makePosters s.sources s.page.placement? options links s.placements s.shelf
  let (begun, after) := s.runTasksAfter making.rounds
  let placements := making.deeds.filterMap placement?
  let asked := (making.fetched.map Event.fetch).toList ++ making.asked.map Event.metadata
  let (made, requests) := match making.outcome with
    | .ok posters => (posters, s.supply.requests making.fetched (videoIds links))
    | .error _ => ([], none)
  ⟨.posters making.deeds making.outcome, asked.flatMap s.noticed ++ begun ++ placements, requests,
    { after with
      shelf := making.shelf
      fetched := making.fetched.toList ++ s.fetched
      placements := s.placements + placements.length
      posters := s.posters ++ made }⟩

/-- Clicks on a poster, or replaces it whatever a click does. -/
def clickOn (poster : Poster) (options : Options) (isReplacement : Bool) (s : Stage) :
    Option Report := do
  let begin := if isReplacement then Click.replace else Click.start
  let (click, run) := begin options poster s.loading.run
  let i := s.clicks.length
  let s := { s with loading := { s.loading with run }, clicks := s.clicks ++ [click] }
  let (status, after) ← s.pollClick i
  return .ofEvents (.click i status) after

/-- Does an act; none if it is about a link or click that is not there. -/
def perform (act : Act) (s : Stage) : Option Report :=
  match act with
  | .metadata numbers => (s.linksAt numbers).map s.askMetadata
  | .posters options numbers => (s.linksAt numbers).map (s.make options)
  | .click poster options isReplacement =>
    match s.posters[poster]? with
    | some poster => s.clickOn poster options isReplacement
    | none => some (.ofEvents .noSuchPoster ([], s))
  | .poll i => (s.pollClick i).map fun (status, after) => .ofEvents (.status status) after
  | .await i => (s.awaitClick i).map fun (status, after) => .ofEvents (.status status) after
  | .signal =>
    let (settled, run) := s.loading.run.signal
    some (.ofEvents (.flag settled) ([], { s with loading := { s.loading with run } }))
  | .runTasks => some (.ofEvents .nothing s.runTasks)
  | .release =>
    let (scripts, loading) := s.loading.release
    some (.ofEvents .nothing (s.injections scripts, { s with loading }))
  | .contains spec => some (.ofEvents (.flag (s.shelf.contains spec)) ([], s))

end Stage

end VideoPosters.Rehearsal
