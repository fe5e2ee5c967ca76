import VideoPosters.Files
import VideoPosters.Settings

/-!
# Where settings are kept

Settings are kept in a file.  The file in the user's directory of configurations is used
if none is named, and need not be there.

## Main definitions

* `Settings.load` — the settings of a file.
* `Settings.defaultPath` — the file of the user.
* `Settings.loadDefault` — the settings of the user.
-/

namespace VideoPosters.Settings

/-- The settings of the file at a path. -/
def load (readFile : FileReader) (path : String) : Except Failure Settings :=
  match readFile path with
  | .ok document => read document
  | .error e => .error (.file e)

/-- The path of the user's settings below the directory of configurations. -/
def defaultPath : String := "autotube/settings.json"

/-- The settings of the user: the defaults if nothing is at the path of their file.  The path is
taken below the directory of configurations. -/
def loadDefault (configurations : FileReader) : Except Failure Settings :=
  match configurations defaultPath with
  | .ok document => read document
  | .error e => if e.isThere then .error (.file e) else .ok Settings.default

end VideoPosters.Settings
