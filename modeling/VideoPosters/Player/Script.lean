import VideoPosters.Text.Blank
import VideoPosters.Web

/-!
# The script of the player API

Without a browser the script is not run, only fetched: it counts as injected if there is
one.

## Main definitions

* `Player.injectScript` — fetches the script and checks that it is not blank.
-/

namespace VideoPosters.Player

/-- Whether a text is nothing but blanks. -/
def isAllBlank (s : String) : Bool := s.toList.all Text.isBlank

/-- Checks that a script is there. -/
def checkScript (address body : String) : Except String Unit :=
  if isAllBlank body then .error ("script " ++ address ++ " is empty") else .ok ()

/-- Fetches the script and checks that it is not blank. -/
def injectScript (web : Web) (address : String) : Web.Exchange (Except String Unit) :=
  match Url.parse address with
  | .ok url =>
    (web.getText url Web.anyContent).map fun outcome => do checkScript address (← outcome)
  | .error _ => .silent (.error "builder error")

end VideoPosters.Player
