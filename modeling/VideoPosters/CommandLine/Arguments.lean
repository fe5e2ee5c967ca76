/-!
# The arguments of the command line

Arguments name links and set options.  The value of an option follows it as an argument of
its own or after an equals sign; two hyphens end the options.

## Main definitions

* `CommandLine.Flag` — the options that take a value.
* `CommandLine.Arguments` — what the arguments name and set.
* `CommandLine.Command` — what the arguments ask for.
* `CommandLine.Command.ofArguments` — reading the arguments.
-/

namespace VideoPosters.CommandLine

/-- The options that take a value. -/
inductive Flag where
  | document
  | config
  | apiKey
  | template
  | templatesDir
  deriving DecidableEq, Repr

/-- All options that take a value. -/
def Flag.all : List Flag := [.document, .config, .apiKey, .template, .templatesDir]

/-- The name of an option. -/
def Flag.name : Flag → String
  | .document => "document"
  | .config => "config"
  | .apiKey => "api-key"
  | .template => "template"
  | .templatesDir => "templates-dir"

/-- Whether the value of an option is a path, which cannot be empty. -/
def Flag.isPath : Flag → Bool
  | .document | .config | .templatesDir => true
  | .apiKey | .template => false

/-- The option of a name. -/
def Flag.ofName? (name : List Char) : Option Flag := Flag.all.find? (·.name.toList = name)

/-- What the arguments name and set. -/
structure Arguments where
  urls : List String
  /-- The values of the options that are set. -/
  values : List (Flag × String)
  deriving DecidableEq, Repr

/-- The value of an option. -/
def Arguments.value? (arguments : Arguments) (flag : Flag) : Option String :=
  arguments.values.lookup flag

/-- Names a link. -/
def Arguments.addUrl (url : String) (arguments : Arguments) : Arguments :=
  { arguments with urls := arguments.urls ++ [url] }

/-- Sets an option, which can be set once only. -/
def Arguments.set? (flag : Flag) (value : String) (arguments : Arguments) : Option Arguments :=
  if (arguments.value? flag).isSome || flag.isPath && value = "" then none
  else some { arguments with values := (flag, value) :: arguments.values }

/-- What the arguments ask for. -/
inductive Command where
  | run (arguments : Arguments)
  | help
  | version
  /-- The arguments cannot be understood. -/
  | misuse
  deriving DecidableEq, Repr

/-! ### Reading -/

/-- What an argument looks like. -/
inductive Shape where
  /-- Two hyphens: what follows are links. -/
  | separator
  /-- An option, with the value after its equals sign if it has one. -/
  | long (name : List Char) (value : Option String)
  /-- A hyphen with letters. -/
  | short (letter : Char)
  | plain
  deriving DecidableEq, Repr

/-- What an argument looks like.  A hyphen alone is plain. -/
def Shape.ofChars : List Char → Shape
  | ['-', '-'] => .separator
  | '-' :: '-' :: rest =>
    let value := match rest.dropWhile (· ≠ '=') with
      | _ :: value => some (String.ofList value)
      | [] => none
    .long (rest.takeWhile (· ≠ '=')) value
  | '-' :: letter :: _ => .short letter
  | _ => .plain

/-- What is to be done after an argument. -/
inductive Progress where
  /-- The next argument is read. -/
  | next (arguments : Arguments)
  /-- The next argument is the value of an option. -/
  | expect (flag : Flag) (arguments : Arguments)
  /-- All further arguments are links. -/
  | onlyUrls (arguments : Arguments)
  /-- The reading is over. -/
  | over (command : Command)

/-- Sets an option and goes on. -/
def Progress.set (flag : Flag) (value : String) (arguments : Arguments) : Progress :=
  match arguments.set? flag value with
  | some arguments => .next arguments
  | none => .over .misuse

/-- Reads an option given by its name. -/
def Progress.ofLong (name : List Char) (value : Option String) (arguments : Arguments) :
    Progress :=
  match Flag.ofName? name, value with
  | some flag, some value => .set flag value arguments
  | some flag, none => .expect flag arguments
  | none, some _ => .over .misuse
  | none, none =>
    if name = "help".toList then .over .help
    else if name = "version".toList then .over .version
    else .over .misuse

/-- Reads an option given by a letter. -/
def Progress.ofShort (letter : Char) : Progress :=
  if letter = 'h' then .over .help else if letter = 'V' then .over .version else .over .misuse

/-- Reads an argument. -/
def Progress.ofArgument (argument : String) (arguments : Arguments) : Progress :=
  match Shape.ofChars argument.toList with
  | .separator => .onlyUrls arguments
  | .long name value => .ofLong name value arguments
  | .short letter => .ofShort letter
  | .plain => .next (arguments.addUrl argument)

/-- Reads the value of an option: it must not look like an option. -/
def Progress.ofValue (flag : Flag) (argument : String) (arguments : Arguments) : Progress :=
  match Shape.ofChars argument.toList with
  | .plain => .set flag argument arguments
  | _ => .over .misuse

namespace Command

/-- Reads further arguments. -/
def read : Progress → List String → Command
  | .over command, _ => command
  | .next arguments, [] => .run arguments
  | .onlyUrls arguments, [] => .run arguments
  | .expect _ _, [] => .misuse
  | .next arguments, argument :: rest => read (.ofArgument argument arguments) rest
  | .expect flag arguments, argument :: rest => read (.ofValue flag argument arguments) rest
  | .onlyUrls arguments, argument :: rest => read (.onlyUrls (arguments.addUrl argument)) rest

/-- Reads the arguments. -/
def ofArguments (arguments : List String) : Command := read (.next ⟨[], []⟩) arguments

end Command

end VideoPosters.CommandLine
