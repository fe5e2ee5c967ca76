import VideoPosters.CommandLine.Arguments
import VideoPosters.Files
import VideoPosters.Page
import VideoPosters.Poster.Making
import VideoPosters.Settings.Location

/-!
# The command line

The program lists the video links among its arguments and in a page.  With a key of the
data service it also makes posters for them and prints each after a comment that tells
where it goes.

## Main definitions

* `CommandLine.Surroundings` — what the program finds around it.
* `CommandLine.Report` — what it prints, and its exit code.
* `CommandLine.placement` — how a placed poster is printed.
* `CommandLine.run` — the program.
-/

namespace VideoPosters.CommandLine

/-- What the program finds around it. -/
structure Surroundings where
  /-- The files, as seen from the working directory. -/
  files : FileReader
  /-- The files, as seen from the directory of configurations. -/
  configurations : FileReader
  web : Web

/-- What a program prints, and its exit code. -/
structure Report where
  exitCode : Nat
  output : String
  errors : String
  deriving DecidableEq, Repr

/-- A report that a program ends well with. -/
def Report.ofOutput (output : String) : Report := ⟨0, output, ""⟩

/-- A report that a program fails with. -/
def Report.ofError (message : String) : Report := ⟨1, "", "Error: " ++ message ++ "\n"⟩

/-- A report after what was printed before. -/
def Report.after (output errors : String) (report : Report) : Report :=
  { report with output := output ++ report.output, errors := errors ++ report.errors }

/-! ### Texts -/

/-- The version of the program. -/
def versionText : String := "autotube 0.3.0-dev\n"

/-- How the program is called. -/
def usageText : String := "Usage: autotube [OPTIONS] [URLS]...\n"

/-- What the program does and which options it has. -/
def helpText : String :=
  "Find YouTube links and render posters for them\n\n" ++ usageText ++
  "\nArguments:\n" ++
  "  [URLS]...  Video URLs to inspect\n" ++
  "\nOptions:\n" ++
  "      --document <DOCUMENT>            " ++
    "HTML document to scan for links and embedded templates\n" ++
  "      --config <CONFIG>                Settings file (JSON)\n" ++
  "      --api-key <API_KEY>              " ++
    "YouTube Data API key; enables poster rendering\n" ++
  "      --template <TEMPLATE>            " ++
    "Template specifier: embedded id, absolute path or literal text\n" ++
  "      --templates-dir <TEMPLATES_DIR>  Directory holding templates named \x60<id>.html\x60\n" ++
  "  -h, --help                           Print help\n" ++
  "  -V, --version                        Print version\n"

/-- What is said about arguments that cannot be understood. -/
def misuseText : String :=
  "error: the arguments cannot be understood\n\n" ++ usageText ++
    "\nFor more information, try '--help'.\n"

/-! ### Links -/

/-- The line of a link among those that are listed; links that lead to no video have none. -/
def listedLine (link : Link) : String :=
  match link.videoId? with
  | some id => id ++ "\t" ++ link.href ++ "\n"
  | none => ""

/-- The line about a link that leads to no video. -/
def rejectedLine (link : Link) : String :=
  match link.videoId? with
  | some _ => ""
  | none => "Not a YouTube video link: " ++ link.href ++ "\n"

/-- Lines one after the other. -/
def concat (lines : List String) : String := lines.foldr (· ++ ·) ""

/-! ### Posters -/

/-- The comment before a placed poster. -/
def placementComment (link : Link) (poster : Poster) (placer : Placer) : String :=
  "<!-- " ++ placer.name ++ " " ++ link.href ++ " \"" ++ poster.video.item.title ++ "\" -->"

/-- How a placed poster is printed. -/
def placement (link : Link) (poster : Poster) (placer : Placer) : String :=
  placementComment link poster placer ++ "\n" ++ poster.markup ++ "\n"

/-- What is printed for a deed. -/
def printed : Deed → String
  | .place link poster placer => placement link poster placer
  | .present .. => ""

/-- The options that settings ask for; posters that would not be placed are shown
nevertheless. -/
def optionsOf (settings : Settings) : Except Failure Options := do
  let options ← Options.ofSettings settings
  return { options with placer := some (options.placer.getD .appendToParent) }

/-- What the posters for some links are made from. -/
def sourcesOf (settings : Settings) (embedded? : String → Option String) (web : Web) :
    Except Failure Sources := do
  let site ← Template.Site.ofText settings.templateBaseUrl
  let service ← Video.Service.ofSettings settings
  return .ofServices embedded? site service web

/-- Prints posters for some links. -/
def printPosters (settings : Settings) (embedded? : String → Option String) (web : Web)
    (links : List Link) : Except Failure Report := do
  let sources ← sourcesOf settings embedded? web
  let options ← optionsOf settings
  let making := makePosters sources (fun _ => none) options links 0 Template.Shelf.empty
  let output := concat (making.deeds.map printed)
  match making.outcome with
  | .ok _ => return .ofOutput output
  | .error e => return (Report.ofError e.message).after output ""

/-! ### The program -/

/-- The settings of a call: those of the file that is named, or those of the user, with what
the arguments set. -/
def settingsOf (arguments : Arguments) (surroundings : Surroundings) :
    Except Failure Settings := do
  let settings ← match arguments.value? .config with
    | some path => Settings.load surroundings.files path
    | none => Settings.loadDefault surroundings.configurations
  return { settings with
    apiKey := (arguments.value? .apiKey).or settings.apiKey
    template := (arguments.value? .template).getD settings.template }

/-- The page of a call. -/
def pageOf (arguments : Arguments) (surroundings : Surroundings) : Except FileError Page :=
  match arguments.value? .document with
  | some path => do return Page.parse (← surroundings.files path)
  | none => .ok Page.empty

/-- The embedded templates of a call: those of a directory, or those of the page. -/
def embeddedOf (arguments : Arguments) (surroundings : Surroundings) (page : Page) :
    String → Option String :=
  match arguments.value? .templatesDir with
  | some directory => templateInDirectory surroundings.files directory
  | none => page.template?

/-- Lists links and prints their posters. -/
def listAndPrint (arguments : Arguments) (surroundings : Surroundings) (settings : Settings)
    (page : Page) : Report :=
  let links := page.videoLinks ++ arguments.urls.map Link.ofHref
  let report :=
    if settings.apiKey.isNone then .ofOutput ""
    else
      let embedded? := embeddedOf arguments surroundings page
      match printPosters settings embedded? surroundings.web links with
      | .ok report => report
      | .error e => .ofError e.message
  report.after (concat (links.map listedLine)) (concat (links.map rejectedLine))

/-- The program with arguments that are understood. -/
def runWith (arguments : Arguments) (surroundings : Surroundings) : Report :=
  match settingsOf arguments surroundings, pageOf arguments surroundings with
  | .error e, _ => .ofError e.message
  | .ok _, .error e => .ofError e.message
  | .ok settings, .ok page => listAndPrint arguments surroundings settings page

/-- The program. -/
def run (arguments : List String) (surroundings : Surroundings) : Report :=
  match Command.ofArguments arguments with
  | .run arguments => runWith arguments surroundings
  | .help => .ofOutput helpText
  | .version => .ofOutput versionText
  | .misuse => ⟨2, "", misuseText⟩

end VideoPosters.CommandLine
