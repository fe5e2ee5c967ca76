import VideoPosters.Player.Run

/-!
# Rehearsals of loading the player API

In a rehearsal the page does not inject the script of the player API: how that goes is laid
down beforehand.  Injections are tasks; they begin, and go on, only when tasks are run.

## Main definitions

* `Rehearsal.Injection` — how the injection goes.
* `Rehearsal.Loading` — a run of the player loader with the injections that have begun.
* `Rehearsal.Loading.runTasks` — lets the tasks run.
* `Rehearsal.Loading.Act`, `Rehearsal.Loading.perform` — what is done in a rehearsal.
-/

namespace VideoPosters.Rehearsal

open Player

/-- How the injection of the script goes. -/
structure Injection where
  /-- Whether it waits until it is released. -/
  isGated : Bool
  outcome : Except String Unit

/-- A run of the player loader with the injections that have begun. -/
structure Loading where
  injection : Injection
  run : Run
  /-- Whether gated injections have been released. -/
  isReleased : Bool
  /-- The number of injections that have begun. -/
  begun : Nat
  /-- The first handle that a request came to. -/
  first : Option Handle

namespace Loading

/-- A rehearsal that starts with the loader of a script. -/
def ofScript (injection : Injection) (scriptUrl : String) : Loading :=
  ⟨injection, Run.ofScript scriptUrl, false, 0, none⟩

/-! ### Tasks -/

/-- Lets the tasks run: all injections begin, and those that need not wait come to their
end.  Returns the scripts whose injection has begun. -/
def runTasks (s : Loading) : List String × Loading :=
  let started := s.run.loader.injections
  let isOpen := !s.injection.isGated || s.isReleased
  let run :=
    if isOpen then (started - s.run.ended).repeat (Run.endInjection s.injection.outcome) s.run
    else s.run
  (List.replicate (started - s.begun) s.run.loader.scriptUrl, { s with run, begun := started })

/-- Releases gated injections and lets the tasks run. -/
def release (s : Loading) : List String × Loading := { s with isReleased := true }.runTasks

/-! ### Requests -/

/-- What a request has come to, as far as it can be seen. -/
inductive Sight where
  | pending
  /-- The handle, and whether it is the one that was seen first. -/
  | ready (handle : Handle) (isFirst : Bool)
  | failed (reason : String)
  | taken

/-- What a request has come to; none if it was never made. -/
def look (i : Nat) (s : Loading) : Option Sight × Loading :=
  match s.run.poll i with
  | (none, run) => (none, { s with run })
  | (some .pending, run) => (some .pending, { s with run })
  | (some (.failed failure), run) => (some (.failed failure.message), { s with run })
  | (some .taken, run) => (some .taken, { s with run })
  | (some (.ready handle), run) =>
    let first := s.first.getD handle
    (some (.ready handle (handle = first)), { s with run, first := some first })

/-- Waits for a request: if it is pending, the tasks are run. -/
def await (i : Nat) (s : Loading) : Option Sight × List String × Loading :=
  match s.look i with
  | (some .pending, s) =>
    let (begun, s) := s.runTasks
    let (sight, s) := s.look i
    (sight, begun, s)
  | (sight, s) => (sight, [], s)

/-- The requests whose outcome has not been taken. -/
def unfinished (s : Loading) : List Nat :=
  (s.run.calls.zipIdx.filter fun (call, _) => !call.taken).map Prod.snd

/-- Waits for one request after the other. -/
def awaitAll : List Nat → Loading → List Sight × List String × Loading
  | [], s => ([], [], s)
  | i :: rest, s =>
    let (sight, begun, s) := s.await i
    let (sights, later, s) := awaitAll rest s
    (sight.toList ++ sights, begun ++ later, s)

/-! ### Acts -/

/-- What is done in a rehearsal. -/
inductive Act where
  /-- A request, with or without a runtime. -/
  | load (hasRuntime : Bool)
  | look (i : Nat)
  /-- Waits for all requests whose outcome has not been taken. -/
  | awaitAll
  | runTasks
  | release
  | openChannel
  /-- The script signals through a channel, or through a new one. -/
  | signal (channel : Option Nat)
  /-- The script signals and does not ask what came of it. -/
  | callback
  | dropLoader
  | dropChannel (i : Nat)
  deriving Repr

/-- What an act comes to. -/
inductive Reply where
  | nothing
  /-- The number of a new request. -/
  | request (i : Nat)
  /-- The number of a new channel. -/
  | channel (i : Nat)
  | sight (sight : Sight)
  | sights (sights : List Sight)
  /-- Whether a signal settled the load; none if there was nothing to signal through. -/
  | settled (settled : Option Bool)

/-- Does an act.  Returns what it comes to and the scripts whose injection has begun; none
if the act is about a request or channel that was never made. -/
def perform (act : Act) (s : Loading) : Option (Reply × List String × Loading) :=
  match act with
  | .load hasRuntime =>
    some (.request s.run.calls.length, [], { s with run := s.run.load hasRuntime })
  | .look i =>
    let (sight, s) := s.look i
    sight.map fun sight => (.sight sight, [], s)
  | .awaitAll =>
    let (sights, begun, s) := awaitAll s.unfinished s
    some (.sights sights, begun, s)
  | .runTasks => some (.nothing, s.runTasks)
  | .release => some (.nothing, s.release)
  | .openChannel => some (.channel s.run.channels.length, [], { s with run := s.run.openChannel })
  | .signal (some i) =>
    if i < s.run.channels.length then
      let (settled, run) := s.run.signalThrough (some i)
      some (.settled settled, [], { s with run })
    else none
  | .signal none =>
    let (settled, run) := s.run.signalThrough none
    some (.settled settled, [], { s with run })
  | .callback =>
    some (.nothing, [], { s with run := (s.run.signalThrough none).2 })
  | .dropLoader => some (.nothing, [], { s with run := s.run.dropLoader })
  | .dropChannel i =>
    if i < s.run.channels.length then some (.nothing, [], { s with run := s.run.dropChannel i })
    else none

/-- Where the load stands, as the loader says; none once it is gone. -/
def state? (s : Loading) : Option LoadState :=
  if s.run.isHeld then some s.run.loader.state else none

end Loading

end VideoPosters.Rehearsal
