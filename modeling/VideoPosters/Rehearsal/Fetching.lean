import VideoPosters.Waiting
import VideoPosters.Template.Shelf

/-!
# Rehearsals of fetching templates

In a rehearsal what the fetches of each path bring, and how long they take, is laid down
beforehand.

## Main definitions

* `Rehearsal.Arrival` — what a fetch brings after some rounds.
* `Rehearsal.arrivalOf` — what the fetch of a path brings that was fetched before.
* `Rehearsal.Fetching` — a run of a shelf with the fetches that are under way.
* `Rehearsal.Fetching.poll`, `Rehearsal.Fetching.await`, `Rehearsal.Fetching.join` — orders
  that are looked after once, or waited for.
* `Rehearsal.Fetching.Act`, `Rehearsal.Fetching.perform` — what is done in a rehearsal.
-/

namespace VideoPosters.Rehearsal

open Template

/-- What a fetch brings after some rounds. -/
abbrev Arrival := Delayed (Except String String)

/-- What the fetch of a path brings that was fetched `count` times before: the last arrival
laid down for the path repeats. -/
def arrivalOf (arrivals : List (String × List Arrival)) (path : String) (count : Nat) : Arrival :=
  let all := (arrivals.lookup path).getD []
  (all[min count (all.length - 1)]?).getD (.now (.error "404 Not Found"))

/-- What an order has come to. -/
abbrev Outcome := Except Failure Compiled

/-- A run of a shelf with the fetches that are under way. -/
structure Fetching where
  arrivals : List (String × List Arrival)
  embedded? : String → Option String
  run : Shelf.Run
  /-- The fetches under way, by the numbers of their orders. -/
  underway : List (Nat × Arrival)
  /-- The numbers of the orders that are waited for later. -/
  started : List Nat
  /-- The templates in the order in which they were first seen, with their tags. -/
  seen : List (Compiled × Option String)

namespace Fetching

/-- A rehearsal that starts with an empty shelf. -/
def ofArrivals (arrivals : List (String × List Arrival)) (embedded? : String → Option String) :
    Fetching :=
  ⟨arrivals, embedded?, Shelf.Run.start, [], [], []⟩

/-! ### Looking after orders -/

/-- Looks after an order whose fetch brings this. -/
def pollWith (i : Nat) (arrival : Arrival) (s : Fetching) : Shelf.Status × Fetching :=
  let others := s.underway.filter (·.1 ≠ i)
  match arrival.rounds with
  | 0 =>
    let (status, run) := s.run.poll i (some arrival.outcome)
    (status, { s with run, underway := others })
  | n + 1 =>
    let (status, run) := s.run.poll i none
    (status, { s with run, underway := (i, ⟨n, arrival.outcome⟩) :: others })

/-- Looks after an order once. -/
def poll (i : Nat) (s : Fetching) : Shelf.Status × Fetching :=
  match s.run.orders.getD i .gone with
  | .idle path => s.pollWith i (arrivalOf s.arrivals path (s.run.fetched.count path))
  | .fetching _ => s.pollWith i ((s.underway.lookup i).getD (.now (.error "404 Not Found")))
  | .ready _ | .gone =>
    let (status, run) := s.run.poll i none
    (status, { s with run })

/-- Looks after an order until it is done, so many times at most. -/
def pollTimes : Nat → Nat → Fetching → Shelf.Status × Fetching
  | 0, _, s => (.pending, s)
  | n + 1, i, s =>
    match s.poll i with
    | (.pending, s) => pollTimes n i s
    | (status, s) => (status, s)

/-- The rounds after which all fetches under way have brought what they bring. -/
def roundsLeft (s : Fetching) : Nat := s.underway.foldl (fun n (_, a) => max n a.rounds) 0

/-- Waits for an order; none if it was taken before. -/
def await (i : Nat) (s : Fetching) : Option Outcome × Fetching :=
  match s.poll i with
  | (.pending, s) =>
    match s.pollTimes (s.roundsLeft + 1) i with
    | (.done outcome, s) => (some outcome, s)
    | (_, s) => (none, s)
  | (.done outcome, s) => (some outcome, s)
  | (.taken, s) => (none, s)

/-! ### Waiting for several orders -/

/-- Looks once after each of the orders that is not done. -/
def pollEach : List (Nat × Option Outcome) → Fetching → List (Nat × Option Outcome) × Fetching
  | [], s => ([], s)
  | (i, some outcome) :: rest, s =>
    let (rest, s) := pollEach rest s
    ((i, some outcome) :: rest, s)
  | (i, none) :: rest, s =>
    let (status, s) := s.poll i
    let (rest, s) := pollEach rest s
    match status with
    | .done outcome => ((i, some outcome) :: rest, s)
    | _ => ((i, none) :: rest, s)

/-- So many rounds in which each of the orders that is not done is looked after once. -/
def pollRounds : Nat → List (Nat × Option Outcome) → Fetching →
    List (Nat × Option Outcome) × Fetching
  | 0, orders, s => (orders, s)
  | n + 1, orders, s =>
    let (orders, s) := pollEach orders s
    pollRounds n orders s

/-- Whether an order has not been taken or given up. -/
def isOpen (s : Fetching) (i : Nat) : Bool := s.run.orders.getD i .gone ≠ .gone

/-- Waits for all of the orders at once, round by round.  What was taken before is left
out. -/
def join (orders : List Nat) (s : Fetching) : List Outcome × Fetching :=
  let waiting := (orders.filter s.isOpen).eraseDups.map fun i => (i, (none : Option Outcome))
  let (waiting, s) := pollEach waiting s
  let (waiting, s) := pollRounds (s.roundsLeft + 1) waiting s
  (waiting.filterMap Prod.snd, s)

/-! ### Acts -/

/-- A template as it is seen: its number in the order of first sight. -/
structure Sight where
  instanceNumber : Nat
  tokenCount : Nat
  deriving DecidableEq, Repr

/-- Sees a template. -/
def see (template : Compiled) (s : Fetching) : Sight × Fetching :=
  match s.seen.findIdx? (·.1.serial = template.serial) with
  | some i => (⟨i, template.tokens.length⟩, s)
  | none =>
    (⟨s.seen.length, template.tokens.length⟩, { s with seen := s.seen ++ [(template, none)] })

/-- Sees what orders have come to. -/
def seeAll : List Outcome → Fetching → List (Except Failure Sight) × Fetching
  | [], s => ([], s)
  | .ok template :: rest, s =>
    let (sight, s) := s.see template
    let (sights, s) := seeAll rest s
    (.ok sight :: sights, s)
  | .error e :: rest, s =>
    let (sights, s) := seeAll rest s
    (.error e :: sights, s)

/-- What is done in a rehearsal. -/
inductive Act where
  /-- Resolves a specifier and waits for the template. -/
  | resolve (spec : String)
  /-- Resolves a specifier; the template is waited for later. -/
  | start (spec : String)
  | await (i : Nat)
  | join (orders : List Nat)
  | drop (i : Nat)
  | render (i : Nat) (data : Json)
  | setTag (i : Nat) (tag : String)
  | tag (i : Nat)
  | contains (spec : String)
  | isEmpty

/-- What an act comes to. -/
inductive Reply where
  | nothing
  /-- A specifier could not be resolved. -/
  | refused (failure : Failure)
  /-- The number of what was started. -/
  | started (i : Nat)
  | outcome (outcome : Except Failure Sight)
  | outcomes (outcomes : List (Except Failure Sight))
  | taken
  | text (s : List Char)
  | tag (tag : Option String)
  | flag (flag : Bool)

/-- What has come of waiting for an order. -/
def delivered : Option Outcome × Fetching → Reply × Fetching
  | (some (.ok template), s) =>
    let (sight, s) := s.see template
    (.outcome (.ok sight), s)
  | (some (.error e), s) => (.outcome (.error e), s)
  | (none, s) => (.taken, s)

/-- Does an act; none if it is about something that was never started or seen. -/
def perform (act : Act) (s : Fetching) : Option (Reply × Fetching) :=
  match act with
  | .resolve spec =>
    match s.run.order s.embedded? spec with
    | (.ok i, run) => some (delivered ({ s with run }.await i))
    | (.error e, run) => some (.refused e, { s with run })
  | .start spec =>
    match s.run.order s.embedded? spec with
    | (.ok i, run) => some (.started s.started.length, { s with run, started := s.started ++ [i] })
    | (.error e, run) => some (.refused e, { s with run })
  | .await i => do
    let order ← s.started[i]?
    return delivered (s.await order)
  | .join list => do
    let orders ← list.mapM fun i => s.started[i]?
    let (outcomes, s) := s.join orders
    let (sights, s) := seeAll outcomes s
    return (.outcomes sights, s)
  | .drop i => do
    let order ← s.started[i]?
    return (.nothing, { s with run := s.run.drop order })
  | .render i data => do
    let (template, _) ← s.seen[i]?
    return (.text (Template.render template.tokens data), s)
  | .setTag i tag => do
    let (template, _) ← s.seen[i]?
    return (.nothing, { s with seen := s.seen.set i (template, some tag) })
  | .tag i => do
    let (_, tag) ← s.seen[i]?
    return (.tag tag, s)
  | .contains spec => some (.flag (s.run.shelf.contains spec), s)
  | .isEmpty => some (.flag (s.run.shelf.size = 0), s)

end Fetching

end VideoPosters.Rehearsal
