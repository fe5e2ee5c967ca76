import VideoPosters.Failure
import VideoPosters.Json.Reading

/-!
# Settings

Settings are read from a JSON document that overlays the defaults: an object of any of
the fields, or an array of the first few values in order.  Unknown fields are skipped.

## Main definitions

* `Settings` — the settings.
* `Settings.default` — the defaults.
* `Settings.read` — the settings of a document.
* `Settings.requireApiKey` — the key of the data service, which may not be empty.
-/

namespace VideoPosters

open Json (Node Break ReadError Reader)

/-- What the poster pipeline and the command line are told. -/
structure Settings where
  /-- The key of the data service. -/
  apiKey : Option String
  /-- The address of the data service. -/
  apiUrl : String
  /-- The parts of the metadata to ask for. -/
  part : String
  /-- The script that brings the player API. -/
  playerScriptUrl : String
  /-- The specifier of the template. -/
  template : String
  /-- Where the paths of templates are relative to. -/
  templateBaseUrl : String
  /-- The name of the placer; empty for none. -/
  placer : String
  /-- The name of the click handler; empty for none. -/
  onclick : String
  /-- The selector of the element in a poster that the player replaces. -/
  posterSelector : String
  playerWidth : Nat
  playerHeight : Nat
  deriving DecidableEq, Repr

namespace Settings

/-- The template of a poster when none is chosen. -/
def defaultTemplate : String :=
  "<div class=\"autotube-poster\" id=\"\x7b\x7b=_posterId\x7d\x7d\">\n" ++
  "  <div class=\"autotube-player\"><img src=\"\x7b\x7b=snippet.thumbnails.medium.url\x7d\x7d\"" ++
  " alt=\"\x7b\x7b=snippet.title\x7d\x7d\"></div>\n" ++
  "  <p class=\"autotube-title\">\x7b\x7b=snippet.title\x7d\x7d" ++
  " <span class=\"autotube-time\">\x7b\x7b=_playingTime\x7d\x7d</span></p>\n" ++
  "</div>"

/-- The default settings. -/
protected def default : Settings where
  apiKey := none
  apiUrl := "https://www.googleapis.com/youtube/v3/videos"
  part := "snippet,contentDetails"
  playerScriptUrl := "https://www.youtube.com/iframe_api"
  template := defaultTemplate
  templateBaseUrl := "http://localhost"
  placer := "appendToParent"
  onclick := "replacePoster"
  posterSelector := ".autotube-player"
  playerWidth := 640
  playerHeight := 360

instance : Inhabited Settings := ⟨Settings.default⟩

/-! ### Fields -/

/-- The fields of the settings. -/
inductive Field where
  | apiKey
  | apiUrl
  | part
  | playerScriptUrl
  | template
  | templateBaseUrl
  | placer
  | onclick
  | posterSelector
  | playerWidth
  | playerHeight
  deriving DecidableEq, Repr

/-- The fields in the order of a document given as an array. -/
def Field.all : List Field :=
  [.apiKey, .apiUrl, .part, .playerScriptUrl, .template, .templateBaseUrl, .placer, .onclick,
    .posterSelector, .playerWidth, .playerHeight]

/-- The name of a field in a document. -/
def Field.name : Field → String
  | .apiKey => "api_key"
  | .apiUrl => "api_url"
  | .part => "part"
  | .playerScriptUrl => "iframe_api_url"
  | .template => "template"
  | .templateBaseUrl => "template_base_url"
  | .placer => "placer"
  | .onclick => "onclick"
  | .posterSelector => "poster_selector"
  | .playerWidth => "player_width"
  | .playerHeight => "player_height"

/-- The field of a name. -/
def Field.ofName? (name : String) : Option Field := Field.all.find? (·.name = name)

/-- Reads a field and sets it. -/
def setField (room : Nat) (settings : Settings) (field : Field) (node : Node) :
    Except ReadError Settings :=
  match field with
  | .apiKey => do return { settings with apiKey := ← Json.optional Json.string room node }
  | .apiUrl => do return { settings with apiUrl := ← Json.string room node }
  | .part => do return { settings with part := ← Json.string room node }
  | .playerScriptUrl => do return { settings with playerScriptUrl := ← Json.string room node }
  | .template => do return { settings with template := ← Json.string room node }
  | .templateBaseUrl => do return { settings with templateBaseUrl := ← Json.string room node }
  | .placer => do return { settings with placer := ← Json.string room node }
  | .onclick => do return { settings with onclick := ← Json.string room node }
  | .posterSelector => do return { settings with posterSelector := ← Json.string room node }
  | .playerWidth => do return { settings with playerWidth := ← Json.word32 room node }
  | .playerHeight => do return { settings with playerHeight := ← Json.word32 room node }

/-! ### Reading -/

/-- Reads a field of an object; `seen` are the fields before it. -/
def step (room : Nat) (state : Settings × List Field) (name : String) (node : Node) :
    Except ReadError (Settings × List Field) :=
  match Field.ofName? name with
  | some field =>
    if state.2.contains field then Json.mismatch (.duplicateField name)
    else do return (← setField room state.1 field node, field :: state.2)
  | none => do Json.skip node; return state

/-- Reads the values of an array as the given fields. -/
def readPlaces (room : Nat) (settings : Settings) : List Field → List Node → Option Break →
    Except ReadError Settings
  | [], items, stop => do Json.endItems items stop; return settings
  | field :: fields, items, stop => do
    match ← Json.nextItem items stop with
    | none => return settings
    | some (node, rest) => readPlaces room (← setField room settings field node) fields rest stop

/-- Reads settings: an object, or an array of up to eleven values. -/
def reader : Reader Settings
  | room, .object fields stop => do
    Json.enter room
    return (← Json.foldFields (step (room - 1)) (Settings.default, []) fields stop).1
  | room, .array items stop => do
    Json.enter room
    readPlaces (room - 1) Settings.default Field.all items stop
  | _, node => node.reject "struct AutotubeSettings"

/-- The settings of a document. -/
def read (document : String) : Except Failure Settings :=
  match Reader.ofText reader document with
  | .ok settings => .ok settings
  | .error e => .error (.document e)

/-- The key of the data service. -/
def requireApiKey (settings : Settings) : Except Failure String :=
  match settings.apiKey with
  | some key => if key = "" then .error .missingApiKey else .ok key
  | none => .error .missingApiKey

end Settings

end VideoPosters
