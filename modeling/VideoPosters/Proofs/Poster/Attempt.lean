import VideoPosters.Poster.Making
import VideoPosters.Proofs.Template.ShelfSteps

/-!
# An attempt to make posters, look by look

Whoever wants posters looks after them again and again.  The first look resolves the template,
which may fail at once.  Every look then looks for the template first and for the metadata
second: it begins what has not begun, and the first failure ends the attempt.  What the world
has brought by a look is not laid down, and between two looks the shelf may change under other
hands.  This file says what each look does.

## Main definitions

* `Moment` — what the world has brought by a look.
* `Awaited` — something that is waited for.
* `Wish` — the posters that are wanted.
* `Attempt`, `Attempt.machine` — an attempt, and all that can happen to it.
* `Attempt.Looked` — what comes of looking after both parts.

## Main results

* `Attempt.looked` — looking does one of these.
* `Attempt.keeps_ended` — an attempt that is over stays as it is.
-/

namespace VideoPosters

/-- What the world has brought by the time of a look. -/
structure Moment where
  /-- What a fetch has brought of the template at a path. -/
  text? : String → Option (Except String String)
  /-- What a request has brought of some videos. -/
  videos? : List String → Option (Except Failure (List Video.Item))

/-- Something that is waited for under a key. -/
inductive Awaited (κ α : Type) where
  | idle (key : κ)
  | begun (key : κ)
  | there (value : α)

namespace Awaited

variable {κ α : Type}

/-- The key of something that is not there yet. -/
def key? : Awaited κ α → Option κ
  | .idle key | .begun key => some key
  | .there _ => none

/-- What begins when it is looked for. -/
def beginning : Awaited κ α → List κ
  | .idle key => [key]
  | .begun _ | .there _ => []

/-- What becomes of something when that has arrived. -/
def settle (key : κ) : Option (Except Failure α) → Except Failure (Awaited κ α)
  | none => .ok (.begun key)
  | some (.ok value) => .ok (.there value)
  | some (.error e) => .error e

/-- Looks for something; `arrival?` says what has arrived under a key. -/
def look (arrival? : κ → Option (Except Failure α)) (part : Awaited κ α) :
    Except Failure (Awaited κ α) :=
  match part with
  | .idle key | .begun key => settle key (arrival? key)
  | .there value => .ok (.there value)

theorem look_of_key? {part : Awaited κ α} {key : κ} (h : part.key? = some key)
    (arrival? : κ → Option (Except Failure α)) :
    part.look arrival? = settle key (arrival? key) := by
  cases part with
  | idle other => cases h; rfl
  | begun other => cases h; rfl
  | there value => cases h

variable {arrival? : κ → Option (Except Failure α)} {part part' : Awaited κ α}

/-- What is there after a look was there before or has arrived. -/
theorem of_look_eq_there {value : α} (h : part.look arrival? = .ok (.there value)) :
    part = .there value ∨ ∃ key, part.key? = some key ∧ arrival? key = some (.ok value) := by
  -- a part that waits for nothing is there already, and stays as it is
  cases hkey : part.key? with
  | none =>
    cases part with
    | there other => cases h; exact .inl rfl
    | _ => cases hkey
  | some key =>
    rw [look_of_key? hkey] at h
    refine .inr ⟨key, rfl, ?_⟩
    cases harrived : arrival? key with
    | none => rw [harrived] at h; cases h
    | some outcome =>
      rw [harrived] at h
      cases outcome with
      | error e => cases h
      | ok other => cases h; rfl

/-- What fails in a look has arrived as a failure. -/
theorem look_eq_error_iff {e : Failure} :
    part.look arrival? = .error e ↔
      ∃ key, part.key? = some key ∧ arrival? key = some (.error e) := by
  cases hkey : part.key? with
  | none =>
    cases part with
    | there value => exact ⟨fun h => (nomatch h), fun ⟨_, h, _⟩ => (nomatch h)⟩
    | _ => cases hkey
  | some key =>
    rw [look_of_key? hkey]
    constructor
    · intro h
      refine ⟨key, rfl, ?_⟩
      cases harrived : arrival? key with
      | none => rw [harrived] at h; cases h
      | some outcome =>
        rw [harrived] at h
        cases outcome with
        | error f => cases h; rfl
        | ok value => cases h
    · rintro ⟨_, ⟨⟩, harrived⟩
      rw [harrived]
      rfl

/-- What is waited for after a look was waited for before. -/
theorem key?_of_look (h : part.look arrival? = .ok part') {key : κ}
    (hkey : part'.key? = some key) : part.key? = some key := by
  cases hpart : part.key? with
  | none =>
    cases part with
    | there value => cases h; cases hkey
    | _ => cases hpart
  | some other =>
    rw [look_of_key? hpart] at h
    cases harrived : arrival? other with
    | none => rw [harrived] at h; cases h; exact hkey
    | some outcome =>
      rw [harrived] at h
      cases outcome with
      | error f => cases h
      | ok value => cases h; cases hkey

end Awaited

/-- The posters that are wanted. -/
structure Wish where
  embedded? : String → Option String
  /-- The reason for which the page refuses a placement, by the number of placements before. -/
  refusal? : Nat → Option String
  options : Options
  links : List Link
  /-- The number of placements asked for before. -/
  count : Nat

namespace Wish

variable (w : Wish)

/-- Resolves the template. -/
def choose (shelf : Template.Shelf) :
    Except Failure (Awaited String (List Template.Token)) × Template.Shelf :=
  match w.options.template with
  | .compiled tokens => (.ok (.there tokens), shelf)
  | .specifier spec =>
    match shelf.resolve w.embedded? spec with
    | (.error e, shelf) => (.error e, shelf)
    | (.ok (.ready template), shelf) => (.ok (.there template.tokens), shelf)
    | (.ok (.toFetch path), shelf) => (.ok (.idle path), shelf)

/-- What has arrived of the template at a path. -/
def template? (moment : Moment) (shelf : Template.Shelf) (path : String) :
    Option (Except Failure (List Template.Token)) :=
  (moment.text? path).map fun outcome => (shelf.receive path outcome).1.map (·.tokens)

/-- The shelf after the template has been looked for. -/
def shelfAfter (moment : Moment) (template : Awaited String (List Template.Token))
    (shelf : Template.Shelf) : Template.Shelf :=
  ((template.key?.bind fun path => (moment.text? path).map fun outcome =>
    (shelf.receive path outcome).2)).getD shelf

/-- What has arrived of the videos of the links. -/
def videos? (moment : Moment) (ids : List String) : Option (Except Failure (List LinkedVideo)) :=
  (moment.videos? ids).map (·.map (linkVideos w.links))

end Wish

/-! ### Attempts -/

/-- How far an attempt has come. -/
inductive Phase where
  | fresh
  | waiting (template : Awaited String (List Template.Token))
      (videos : Awaited (List String) (List LinkedVideo))
  | ended (outcome : Except Failure (List Poster))
  /-- Nobody wants the posters any more. -/
  | gone

/-- An attempt to make posters. -/
structure Attempt where
  shelf : Template.Shelf
  phase : Phase
  /-- The paths of the templates that were fetched. -/
  fetched : List String
  /-- The lists of videos whose metadata was asked for. -/
  asked : List (List String)
  deeds : List Deed

namespace Attempt

/-- What can happen. -/
inductive Act where
  /-- Somebody looks after the posters. -/
  | look (moment : Moment)
  /-- The posters are given up. -/
  | drop
  /-- Others leave the shelf in another state. -/
  | elsewhere (shelf : Template.Shelf)

variable (w : Wish)

/-- Nothing has happened yet. -/
def start (shelf : Template.Shelf) : Attempt := ⟨shelf, .fresh, [], [], []⟩

/-- The attempt ends with a failure. -/
def fail (e : Failure) (s : Attempt) : Attempt := { s with phase := .ended (.error e) }

/-- The attempt when the template has been looked for. -/
def lookForTemplate (moment : Moment) (template : Awaited String (List Template.Token))
    (s : Attempt) : Attempt :=
  { s with
    shelf := Wish.shelfAfter moment template s.shelf
    fetched := s.fetched ++ template.beginning }

/-- The attempt when the metadata has been looked for. -/
def lookForVideos (videos : Awaited (List String) (List LinkedVideo)) (s : Attempt) : Attempt :=
  { s with asked := s.asked ++ videos.beginning }

/-- The attempt when both parts are there. -/
def place (tokens : List Template.Token) (videos : List LinkedVideo) (s : Attempt) : Attempt :=
  let placed := placePosters w.refusal? w.options tokens w.count videos
  { s with phase := .ended placed.2, deeds := s.deeds ++ placed.1 }

/-- The attempt when neither part has failed. -/
def goOn : Awaited String (List Template.Token) → Awaited (List String) (List LinkedVideo) →
    Attempt → Attempt
  | .there tokens, .there videos, s => s.place w tokens videos
  | template, videos, s => { s with phase := .waiting template videos }

/-- As long as one part has only begun the attempt waits. -/
theorem goOn_of_begun {template : Awaited String (List Template.Token)}
    {videos : Awaited (List String) (List LinkedVideo)}
    (h : (∃ path, template = .begun path) ∨ ∃ ids, videos = .begun ids) (s : Attempt) :
    s.goOn w template videos = { s with phase := .waiting template videos } := by
  rcases h with ⟨path, rfl⟩ | ⟨ids, rfl⟩
  · rfl
  · cases template <;> rfl

/-- Looks after both parts, the template first. -/
def lookAfter (moment : Moment) (template : Awaited String (List Template.Token))
    (videos : Awaited (List String) (List LinkedVideo)) (s : Attempt) : Attempt :=
  let withTemplate := s.lookForTemplate moment template
  match template.look (Wish.template? moment s.shelf) with
  | .error e => withTemplate.fail e
  | .ok template =>
    match videos.look (w.videos? moment) with
    | .error e => (withTemplate.lookForVideos videos).fail e
    | .ok videos' => (withTemplate.lookForVideos videos).goOn w template videos'

/-- Looks after the posters. -/
def look (moment : Moment) (s : Attempt) : Attempt :=
  match s.phase with
  | .fresh =>
    match w.choose s.shelf with
    | (.error e, shelf) => { s with shelf }.fail e
    | (.ok template, shelf) =>
      { s with shelf }.lookAfter w moment template (.idle (videoIds w.links))
  | .waiting template videos => s.lookAfter w moment template videos
  | .ended _ | .gone => s

/-- Gives the posters up. -/
def drop (s : Attempt) : Attempt :=
  match s.phase with
  | .ended _ => s
  | _ => { s with phase := .gone }

/-- Does an act. -/
def perform : Act → Attempt → Unit × Attempt
  | .look moment, s => ((), s.look w moment)
  | .drop, s => ((), s.drop)
  | .elsewhere shelf, s => ((), { s with shelf })

/-- All that can happen to an attempt. -/
def machine : Machine Attempt Act Unit := ⟨perform w⟩

/-- A step of an attempt. -/
abbrev Step := Machine.Step Attempt Act Unit

/-! ### What comes of a look -/

variable {w} {s : Attempt} {moment : Moment} {template : Awaited String (List Template.Token)}
  {videos : Awaited (List String) (List LinkedVideo)}

/-- What comes of looking after both parts. -/
inductive Looked (w : Wish) (moment : Moment) (template : Awaited String (List Template.Token))
    (videos : Awaited (List String) (List LinkedVideo)) (s : Attempt) : Attempt → Prop where
  | templateFails {e} (h : template.look (Wish.template? moment s.shelf) = .error e) :
      Looked w moment template videos s ((s.lookForTemplate moment template).fail e)
  | videosFail {template' e} (h : template.look (Wish.template? moment s.shelf) = .ok template')
      (h' : videos.look (w.videos? moment) = .error e) :
      Looked w moment template videos s
        (((s.lookForTemplate moment template).lookForVideos videos).fail e)
  | goOn {template' videos'} (h : template.look (Wish.template? moment s.shelf) = .ok template')
      (h' : videos.look (w.videos? moment) = .ok videos') :
      Looked w moment template videos s
        (((s.lookForTemplate moment template).lookForVideos videos).goOn w template' videos')

theorem looked (w : Wish) (moment : Moment) (template : Awaited String (List Template.Token))
    (videos : Awaited (List String) (List LinkedVideo)) (s : Attempt) :
    Looked w moment template videos s (s.lookAfter w moment template videos) := by
  rw [lookAfter]
  cases h : template.look (Wish.template? moment s.shelf) with
  | error e => exact .templateFails h
  | ok template' =>
    cases h' : videos.look (w.videos? moment) with
    | error e => exact .videosFail h h'
    | ok videos' => exact .goOn h h'

theorem look_fresh_error {e : Failure} {shelf : Template.Shelf} (hphase : s.phase = .fresh)
    (h : w.choose s.shelf = (.error e, shelf)) : s.look w moment = { s with shelf }.fail e := by
  rw [look, hphase]
  simp only [h]

theorem look_fresh_ok {shelf : Template.Shelf} (hphase : s.phase = .fresh)
    (h : w.choose s.shelf = (.ok template, shelf)) :
    s.look w moment = { s with shelf }.lookAfter w moment template (.idle (videoIds w.links)) := by
  rw [look, hphase]
  simp only [h]

theorem look_waiting (hphase : s.phase = .waiting template videos) :
    s.look w moment = s.lookAfter w moment template videos := by
  rw [look, hphase]

theorem look_ended {outcome : Except Failure (List Poster)} (hphase : s.phase = .ended outcome) :
    s.look w moment = s := by
  rw [look, hphase]

/-- Whether an attempt is over, with some outcome and after some deeds. -/
structure IsOver (outcome : Except Failure (List Poster)) (fetched : List String)
    (asked : List (List String)) (deeds : List Deed) (s : Attempt) : Prop where
  phase : s.phase = .ended outcome
  fetched : s.fetched = fetched
  asked : s.asked = asked
  deeds : s.deeds = deeds

/-- An attempt that is over stays as it is. -/
theorem keeps_ended (w : Wish) (outcome : Except Failure (List Poster)) (fetched : List String)
    (asked : List (List String)) (deeds : List Deed) :
    (machine w).Keeps (IsOver outcome fetched asked deeds) := by
  intro a s h
  cases a with
  | look moment =>
    show IsOver outcome fetched asked deeds (s.look w moment)
    rw [look_ended h.phase]
    exact h
  | drop =>
    show IsOver outcome fetched asked deeds s.drop
    rw [drop, h.phase]
    exact h
  | elsewhere shelf => exact ⟨h.phase, h.fetched, h.asked, h.deeds⟩

/-- Resolving in vain leaves the shelf as it is. -/
theorem resolve_eq_error {embedded? : String → Option String} {spec : String} {e : Failure}
    {shelf shelf' : Template.Shelf} (h : shelf.resolve embedded? spec = (.error e, shelf')) :
    shelf' = shelf := by
  -- each of the ways to resolve in vain says that the shelf is the same
  have hordered := Template.Shelf.Run.ordered embedded? spec ⟨shelf, [], []⟩
  rw [Template.Shelf.Run.order] at hordered
  simp only [h] at hordered
  cases hordered with
  | unknown => rfl
  | embedFails => rfl
  | literalFails => rfl

theorem choose_eq_error {e : Failure} {shelf shelf' : Template.Shelf}
    (h : w.choose shelf = (.error e, shelf')) : shelf' = shelf := by
  rw [Wish.choose] at h
  split at h
  · cases h
  · next spec _ =>
    split at h
    · next hresolve =>
      cases h
      exact resolve_eq_error hresolve
    · cases h
    · cases h

end Attempt

end VideoPosters
