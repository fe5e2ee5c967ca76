import VideoPosters.Failure
import VideoPosters.Text.Pieces
import VideoPosters.Text.Utf8

/-!
# Files

A directory of files, as the command line and the template directory see it.

## Main definitions

* `File` — the content of a file, or a directory.
* `FileReader` — how files are read.
* `Files` — the files below a directory, by their paths.
* `Files.read` — the text of the file at a path.
* `templateInDirectory` — a template of a directory.
-/

namespace VideoPosters

/-- What a path leads to. -/
inductive File where
  /-- A file of text. -/
  | text (s : String)
  /-- A file of octets. -/
  | octets (content : List Nat)
  | directory
  deriving DecidableEq, Repr

/-- The text of a file. -/
def File.read : File → Except FileError String
  | .text s => .ok s
  | .octets content =>
    match Text.Utf8.decode? content with
    | some s => .ok (String.ofList s)
    | none => .error .notText
  | .directory => .error .isDirectory

/-- How files are read: the text of the file at a path, or why there is none. -/
abbrev FileReader := String → Except FileError String

/-- Files by the names that lead to them from their directory. -/
abbrev Files := List (List (List Char) × File)

namespace Files

/-- The names of a path. -/
def namesOf (path : String) : List (List Char) := Text.splitAt '/' path.toList

/-- What stands at the end of some names.  A directory that holds a file is there without
being listed. -/
def find? (files : Files) (names : List (List Char)) : Option File :=
  match List.find? (fun (entry : List (List Char) × File) => entry.1 = names) files with
  | some (_, file) => some file
  | none =>
    let isAbove (entry : List (List Char) × File) : Bool := names.isPrefixOf entry.1
    if names.isEmpty || files.any isAbove then some .directory else none

/-- What stands at the end of a path that starts at the directory `here`.  Each step but
the last has to end at a directory. -/
def follow (files : Files) (here : List (List Char)) : List (List Char) →
    Except FileError File
  | [] =>
    match files.find? here with
    | some file => .ok file
    | none => .error .notFound
  | name :: names =>
    match files.find? here with
    | none => .error .notFound
    | some .directory =>
      if name = [] || name = ['.'] then follow files here names
      else if name = ['.', '.'] then
        if here.isEmpty then .error .notFound else follow files here.dropLast names
      else follow files (here ++ [name]) names
    | some _ => .error .notDirectory

/-- The text of the file at a path.  An absolute path leads out of the directory. -/
def read (files : Files) : FileReader := fun path =>
  match path.toList with
  | [] => .error .notFound
  | '/' :: _ => .error .notFound
  | _ => do (← follow files [] (namesOf path)).read

end Files

/-! ### Template directories -/

/-- The name of the file of a template: a colon is not portable in file names. -/
def templateFileName (id : String) : String :=
  String.ofList (id.toList.map (fun c => if c = ':' then '_' else c)) ++ ".html"

/-- A path below a directory; an absolute path stands for itself. -/
def joinPath (root path : String) : String :=
  if path.toList.head? = some '/' || root = "" then path
  else if root.toList.getLast? = some '/' then root ++ path
  else root ++ "/" ++ path

/-- The text of a template in a directory.  A file that cannot be read is no template. -/
def templateInDirectory (read : FileReader) (root id : String) : Option String :=
  (read (joinPath root (templateFileName id))).toOption

end VideoPosters
