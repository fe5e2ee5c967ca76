import VideoPosters.Json.ReadError
import VideoPosters.Template.Compile
import VideoPosters.Url.Basic

/-!
# Failures

Everything that can go wrong, each with the words it is reported in.

## Main definitions

* `FileError` — why a file cannot be read.
* `Failure` — the failures of the library.
* `Failure.message` — their words.
-/

namespace VideoPosters

/-- Why a file cannot be read. -/
inductive FileError where
  | notFound
  | notDirectory
  | isDirectory
  | notText
  /-- Any other failure, in the words of the system.  The path may lead to something all the
  same, such as a file that nobody may read. -/
  | other (words : String) (isThere : Bool)
  deriving DecidableEq, Repr

/-- Whether the path leads to something that cannot be read. -/
def FileError.isThere : FileError → Bool
  | .notFound | .notDirectory => false
  | .isDirectory | .notText => true
  | .other _ isThere => isThere

/-- The words for a file that cannot be read. -/
def FileError.message : FileError → String
  | .notFound => "No such file or directory (os error 2)"
  | .notDirectory => "Not a directory (os error 20)"
  | .isDirectory => "Is a directory (os error 21)"
  | .notText => "stream did not contain valid UTF-8"
  | .other words _ => words

/-- A name given for a choice that has no such alternative. -/
inductive UnknownName where
  | placer (name : String)
  | clickHandler (name : String)
  deriving DecidableEq, Repr

/-- The words for an unknown name. -/
def UnknownName.message : UnknownName → String
  | .placer name => "Poster placer \"" ++ name ++ "\" is not valid."
  | .clickHandler name => "Click handler \"" ++ name ++ "\" is not valid."

/-- The failures of the library. -/
inductive Failure where
  /-- A template text does not compile; `template` names the text. -/
  | compile (template : String) (error : Template.CompileError)
  /-- No template is embedded under the identifier. -/
  | templateNotFound (id : String)
  /-- Something could not be fetched. -/
  | fetch (resource reason : String)
  /-- The player API could not be loaded. -/
  | apiLoad (reason : String)
  | file (error : FileError)
  /-- A document is not of the expected form. -/
  | document (error : Json.ReadError)
  | invalidUrl (text : String) (error : Url.Error)
  | unknownName (name : UnknownName)
  | missingApiKey
  /-- A failure of a collaborator, in its own words. -/
  | foreign (message : String)
  deriving DecidableEq, Repr

namespace Failure

/-- The words of an error in a document.  Where the text breaks, only the kind is told. -/
def documentMessage : Json.ReadError → String
  | .mismatch m => m.message
  | .broken .ended => "the document ends too early"
  | .broken .malformed => "the document is malformed"

/-- The words of a failure. -/
def message : Failure → String
  | .compile template error =>
    "Template \"" ++ template ++ "\" failed to compile at offset " ++
      String.ofList (Decimal.numeral error.offset) ++ ": " ++ error.reason.message
  | .templateNotFound id =>
    "Template not found: \"" ++ id ++ "\". Use the id of an embedded template block or a path" ++
      " to an external HTML file containing the template."
  | .fetch resource reason => "Error fetching \"" ++ resource ++ "\": " ++ reason
  | .apiLoad reason => "Unable to load YouTube IFrame API: " ++ reason
  | .file error => "IO error: " ++ error.message
  | .document error => "Serialization error: " ++ documentMessage error
  | .invalidUrl text error => "Invalid URL: " ++ text ++ ": " ++ error.message
  | .unknownName name => name.message
  | .missingApiKey => "A YouTube Data API key is required to fetch video metadata"
  | .foreign text => text

end Failure

end VideoPosters
