import VideoPosters.CommandLine.Program

/-!
# The entry point

Reads the files that a call names and prints what the program reports.  There is no
transport here: every server counts as one that cannot be reached.

## Main definitions

* `CommandLine.surroundingsOf` — what a call finds around it.
* `main` — the entry point.
-/

namespace VideoPosters.CommandLine

/-- The path of the template that a call takes from a directory, if it takes one. -/
def templatePath? (arguments : Arguments) (settings : Settings) : Option String := do
  let directory ← arguments.value? .templatesDir
  match Specifier.classify settings.template with
  | .identifier id => return joinPath directory (templateFileName id)
  | _ => none

/-- Why a file cannot be read, by whether something is at its path and what the system says
about it. -/
def fileErrorOf (isThere : Bool) : IO.Error → FileError
  | .inappropriateType .. => if isThere then .isDirectory else .notDirectory
  | .noFileOrDirectory .. => .notFound
  | e => .other (toString e) isThere

/-- Whether a path leads to something. -/
def leadsSomewhere (path : String) : IO Bool := do
  try
    let _ ← IO.FS.realPath path
    return true
  catch _ => return false

/-- Reads a file. -/
def readFile (path : String) : IO (Except FileError String) := do
  try
    let content ← IO.FS.readBinFile path
    return (File.octets (content.toList.map UInt8.toNat)).read
  catch e => return .error (fileErrorOf (← leadsSomewhere path) e)

/-- The reader of files that were read before. -/
def readerOf (known : List (String × Except FileError String)) : FileReader := fun path =>
  (known.lookup path).getD (.error .notFound)

/-- Reads some files. -/
def readAll (paths : List String) : IO FileReader := do
  return readerOf (← paths.mapM fun path => do return (path, ← readFile path))

/-- The directory of configurations. -/
def configurationsPath : IO String := do
  match ← IO.getEnv "XDG_CONFIG_HOME", ← IO.getEnv "HOME" with
  | some path, _ => return path
  | none, some home => return joinPath home ".config"
  | none, none => return ".config"

/-- What a call finds around it. -/
def surroundingsOf (arguments : Arguments) : IO Surroundings := do
  let content ← readFile (joinPath (← configurationsPath) Settings.defaultPath)
  let configurations := readerOf [(Settings.defaultPath, content)]
  let named := [arguments.value? .config, arguments.value? .document].filterMap id
  let files ← readAll named
  let found : Surroundings := ⟨files, configurations, Web.unreachable⟩
  match settingsOf arguments found with
  | .error _ => return found
  | .ok settings =>
    return { found with files := ← readAll (named ++ (templatePath? arguments settings).toList) }

end VideoPosters.CommandLine

open VideoPosters.CommandLine in
/-- The entry point. -/
def main (arguments : List String) : IO UInt32 := do
  let surroundings ← match Command.ofArguments arguments with
    | .run known => surroundingsOf known
    | _ => pure ⟨readerOf [], readerOf [], VideoPosters.Web.unreachable⟩
  let report := run arguments surroundings
  IO.print report.output
  IO.eprint report.errors
  return UInt32.ofNat report.exitCode
