import VideoPosters.Player.Run
import VideoPosters.Poster.Basic

/-!
# Clicks on posters

A click on a poster requests the player API; once it is there, the page is asked to create
a player in place of the poster.

## Main definitions

* `Player.Click` — a click and what it waits for.
* `Player.Click.start` — a click on a poster.
* `Player.Click.poll` — what a click has come to.
-/

namespace VideoPosters.Player

/-- A click and what it waits for. -/
inductive Click where
  /-- The poster has no click handler. -/
  | idle
  /-- The player API is requested by the call of this number. -/
  | waiting (call : Nat) (request : PlayerRequest)
  | finished
  deriving DecidableEq, Repr

/-- What a click has come to. -/
inductive Click.Status where
  | pending
  | done (outcome : Except Failure (Option PlayerRequest))
  | taken

/-- A player that the page is asked to create. -/
structure Creation where
  handle : Handle
  request : PlayerRequest
  deriving DecidableEq, Repr

namespace Click

/-- Replaces a poster by a player. -/
def replace (options : Options) (poster : Poster) (r : Run) : Click × Run :=
  (.waiting r.calls.length (poster.playerRequest options), r.load true)

/-- A click on a poster. -/
def start (options : Options) (poster : Poster) (r : Run) : Click × Run :=
  match poster.onclick with
  | some .replacePoster => replace options poster r
  | none => (.idle, r)

/-- What a click has come to, with the player that is asked for.  `refusal` is the reason
for which the page refuses to create players. -/
def poll (refusal : Option String) (c : Click) (r : Run) :
    Status × Option Creation × Click × Run :=
  match c with
  | .idle => (.done (.ok none), none, .finished, r)
  | .finished => (.taken, none, .finished, r)
  | .waiting call request =>
    match r.poll call with
    | (some (.ready handle), r) =>
      let outcome := match refusal with
        | some reason => .error (.foreign reason)
        | none => .ok (some request)
      (.done outcome, some ⟨handle, request⟩, .finished, r)
    | (some (.failed failure), r) =>
      (.done (.error (.apiLoad failure.message)), none, .finished, r)
    | (_, r) => (.pending, none, c, r)

end Click

end VideoPosters.Player
