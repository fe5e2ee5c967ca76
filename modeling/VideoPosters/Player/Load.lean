/-!
# Loading the player API

The player API is loaded once.  The first request starts the injection of its script; the
API counts as loaded when the script signals that it is ready.  A request takes several
steps, and the steps of different requests may come in any order.

## Main definitions

* `Player.LoadState` — where the load stands.
* `Player.Loader` — what all requests share.
* `Player.Loader.signal`, `Player.Loader.fail` — the two ways in which a load is settled.
* `Player.Phase`, `Player.Phase.step` — where a request stands, and its next step.
-/

namespace VideoPosters.Player

/-- The loaded player API. -/
structure Handle where
  /-- The address of the script. -/
  scriptUrl : String
  /-- When the API became ready, as the number of signals before. -/
  readyAt : Nat
  deriving DecidableEq, Repr

/-- Where the load stands. -/
inductive LoadState where
  | notRequested
  | pending
  | ready (handle : Handle)
  | failed (reason : String)
  deriving DecidableEq, Repr

/-- What a settled load comes to. -/
def LoadState.outcome? : LoadState → Option (Except String Handle)
  | .notRequested => none
  | .pending => none
  | .ready handle => some (.ok handle)
  | .failed reason => some (.error reason)

/-- Whether the load is settled. -/
def LoadState.isSettled : LoadState → Bool
  | .ready _ | .failed _ => true
  | .notRequested | .pending => false

/-- Just the settled loads have come to something. -/
theorem LoadState.isSome_outcome? (state : LoadState) :
    state.outcome?.isSome = state.isSettled := by
  cases state <;> rfl

/-- What all requests share. -/
structure Loader where
  /-- The address of the script. -/
  scriptUrl : String
  /-- Whether a request has claimed the injection. -/
  claimed : Bool
  state : LoadState
  /-- The number of signals so far. -/
  signals : Nat
  /-- The number of injections started so far. -/
  injections : Nat
  deriving DecidableEq, Repr

namespace Loader

/-- The loader of a script. -/
def ofScript (scriptUrl : String) : Loader := ⟨scriptUrl, false, .notRequested, 0, 0⟩

/-- Settles the load unless it is settled.  Returns whether it was this that settled it. -/
def settle (outcome : LoadState) (l : Loader) : Bool × Loader :=
  if l.state.isSettled then (false, l) else (true, { l with state := outcome })

/-- The script signals that the API is ready.  Returns whether this settled the load. -/
def signal (l : Loader) : Bool × Loader :=
  let (settled, l) := l.settle (.ready ⟨l.scriptUrl, l.signals⟩)
  (settled, { l with signals := l.signals + 1 })

/-- The injection of the script fails. -/
def fail (reason : String) (l : Loader) : Loader := (l.settle (.failed reason)).2

end Loader

/-! ### Requests -/

/-- Where a request stands. -/
inductive Phase where
  /-- It is about to look whether the injection is claimed. -/
  | looking
  /-- It is about to claim the injection. -/
  | claiming
  /-- It is about to say that the load is pending. -/
  | announcing
  /-- It is about to start the injection. -/
  | starting
  /-- It waits for the load to be settled. -/
  | waiting
  /-- It was refused: without a runtime no injection can be started. -/
  | refused
  deriving DecidableEq, Repr

/-- Whether a request has made all its steps. -/
def Phase.isDone : Phase → Bool
  | .waiting | .refused => true
  | _ => false

/-- The next step of a request; `hasRuntime` says whether it could start an injection. -/
def Phase.step (hasRuntime : Bool) (phase : Phase) (l : Loader) : Phase × Loader :=
  match phase with
  | .looking =>
    if l.claimed then (.waiting, l) else if hasRuntime then (.claiming, l) else (.refused, l)
  | .claiming => if l.claimed then (.waiting, l) else (.announcing, { l with claimed := true })
  | .announcing =>
    (.starting, if l.state = .notRequested then { l with state := .pending } else l)
  | .starting => (.waiting, { l with injections := l.injections + 1 })
  | .waiting => (.waiting, l)
  | .refused => (.refused, l)

end VideoPosters.Player
