import VideoPosters.Player.Load

/-!
# Runs of the player loader

A run keeps, beside the loader, the requests made so far, the channels through which the
script can signal, and the injections that have not ended.  While the loader, a channel or
an injection is there the load can still be settled; once all are gone it cannot.

## Main definitions

* `Player.Call`, `Player.Run` — a request, and all that is kept.
* `Player.LoadFailure`, `Player.Answer` — what a request can come to.
* `Player.Run.call`, `Player.Run.advance` — a new request, and its next step.
* `Player.Run.load` — a request with all its steps.
* `Player.Run.poll` — what a request has come to.
* `Player.Run.signal`, `Player.Run.endInjection` — how the load is settled.
-/

namespace VideoPosters.Player

/-- A request for the player API. -/
structure Call where
  /-- Whether the request could start an injection. -/
  hasRuntime : Bool
  phase : Phase
  /-- Whether its outcome has been taken. -/
  taken : Bool
  deriving DecidableEq, Repr

/-- Whether a request is between its first and its last step. -/
def Call.isRunning (c : Call) : Bool := !c.taken && !c.phase.isDone

/-- A run: the loader and what refers to it. -/
structure Run where
  loader : Loader
  /-- Whether the loader is still held. -/
  isHeld : Bool
  /-- The channels made so far, and whether each is still held. -/
  channels : List Bool
  /-- The requests made so far. -/
  calls : List Call
  /-- The number of injections that have ended. -/
  ended : Nat
  deriving DecidableEq, Repr

/-- Why a request for the player API fails. -/
inductive LoadFailure where
  /-- No injection can be started without a runtime. -/
  | noRuntime
  /-- Nothing is left that could settle the load. -/
  | abandoned
  /-- The load is settled and has come to nothing. -/
  | neverSettled
  /-- The script could not be injected. -/
  | injection (reason : String)
  deriving DecidableEq, Repr

/-- The words for a request that fails. -/
def LoadFailure.message : LoadFailure → String
  | .noRuntime =>
    "no Tokio runtime: there is no reactor running, must be called from the context of a " ++
      "Tokio 1.x runtime"
  | .abandoned => "loader dropped before the API became ready"
  | .neverSettled => "load never settled"
  | .injection reason => reason

/-- What a request has come to. -/
inductive Answer where
  | pending
  | ready (handle : Handle)
  | failed (failure : LoadFailure)
  /-- The outcome has been taken before. -/
  | taken
  deriving DecidableEq, Repr

/-- What a request comes to that waits for a load with this outcome. -/
def Answer.ofOutcome : Except String Handle → Answer
  | .ok handle => .ready handle
  | .error reason => .failed (.injection reason)

namespace Run

/-- The run that starts with the loader of a script. -/
def ofScript (scriptUrl : String) : Run := ⟨Loader.ofScript scriptUrl, true, [], [], 0⟩

/-! ### Requests -/

/-- A new request, which has not made a step.  Of a loader that is gone nothing can be
requested; the place of the request stays empty. -/
def call (hasRuntime : Bool) (r : Run) : Run :=
  { r with calls := r.calls ++ [⟨hasRuntime, .looking, !r.isHeld⟩] }

/-- The next step of a request. -/
def advance (i : Nat) (r : Run) : Run :=
  match r.calls[i]? with
  | some ⟨hasRuntime, phase, false⟩ =>
    let (phase, loader) := phase.step hasRuntime r.loader
    { r with loader, calls := r.calls.set i ⟨hasRuntime, phase, false⟩ }
  | _ => r

/-- A new request with all its steps. -/
def load (hasRuntime : Bool) (r : Run) : Run :=
  let i := r.calls.length
  ((((r.call hasRuntime).advance i).advance i).advance i).advance i

/-- Whether anything is left that could settle the load.  A request between its steps keeps
the loader alive. -/
def isOwned (r : Run) : Bool :=
  r.isHeld || r.calls.any Call.isRunning || r.channels.any id ||
    decide (r.ended < r.loader.injections)

/-- What a request in a phase has come to. -/
def answerIn (r : Run) : Phase → Answer
  | .refused => .failed .noRuntime
  | .waiting =>
    if r.loader.state.isSettled then
      (r.loader.state.outcome?.map Answer.ofOutcome).getD (.failed .neverSettled)
    else if r.isOwned then .pending
    else .failed .abandoned
  | _ => .pending

/-- What a request has come to; its outcome can be taken once.  There is no answer for a
request that was never made. -/
def poll (i : Nat) (r : Run) : Option Answer × Run :=
  match r.calls[i]? with
  | none => (none, r)
  | some c =>
    if c.taken then (some .taken, r)
    else
      match r.answerIn c.phase with
      | .pending => (some .pending, r)
      | answer => (some answer, { r with calls := r.calls.set i { c with taken := true } })

/-! ### Settling -/

/-- The script signals that the API is ready. -/
def signal (r : Run) : Bool × Run :=
  let (settled, loader) := r.loader.signal
  (settled, { r with loader })

/-- An injection ends, with a reason if it failed. -/
def endInjection (outcome : Except String Unit) (r : Run) : Run :=
  if r.ended < r.loader.injections then
    match outcome with
    | .ok () => { r with ended := r.ended + 1 }
    | .error reason => { r with ended := r.ended + 1, loader := r.loader.fail reason }
  else r

/-! ### Owners -/

/-- Lets go of the loader. -/
def dropLoader (r : Run) : Run := { r with isHeld := false }

/-- A new channel.  Of a loader that is gone there is none; its place stays empty. -/
def openChannel (r : Run) : Run := { r with channels := r.channels ++ [r.isHeld] }

/-- A copy of a channel; its place stays empty if the channel is gone. -/
def copyChannel (i : Nat) (r : Run) : Run :=
  { r with channels := r.channels ++ [r.channels.getD i false] }

/-- Lets go of a channel. -/
def dropChannel (i : Nat) (r : Run) : Run := { r with channels := r.channels.set i false }

/-- Signals through a channel, or through a new one of the loader; nothing happens if it is
gone. -/
def signalThrough (channel : Option Nat) (r : Run) : Option Bool × Run :=
  let isThere := match channel with
    | some i => r.channels.getD i false
    | none => r.isHeld
  if isThere then
    let (settled, r) := r.signal
    (some settled, r)
  else (none, r)

end Run

end VideoPosters.Player
