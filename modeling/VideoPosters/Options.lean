import VideoPosters.Failure
import VideoPosters.Settings
import VideoPosters.Template.Basic

/-!
# Poster options

How posters are rendered, where they are placed and what a click on one does.

## Main definitions

* `Placer` — where a poster goes relative to its link.
* `ClickHandler` — what a click does.
* `TemplateChoice` — a specifier, or a compiled template at hand.
* `Options` — the options of a run.
* `Options.ofSettings` — the options that settings ask for.
-/

namespace VideoPosters

/-- Where a poster goes relative to its link. -/
inductive Placer where
  | appendToParent
  | appendToLink
  | replaceLink
  deriving DecidableEq, Repr

/-- The name of a placer. -/
def Placer.name : Placer → String
  | .appendToParent => "appendToParent"
  | .appendToLink => "appendToLink"
  | .replaceLink => "replaceLink"

/-- All placers. -/
def Placer.all : List Placer := [.appendToParent, .appendToLink, .replaceLink]

/-- The placer of a name. -/
def Placer.ofName? (name : String) : Except Failure Placer :=
  match Placer.all.find? (·.name = name) with
  | some placer => .ok placer
  | none => .error (.unknownName (.placer name))

/-- What a click on a poster does. -/
inductive ClickHandler where
  /-- Loads the player API and puts a player over the poster. -/
  | replacePoster
  deriving DecidableEq, Repr

/-- The name of a click handler. -/
def ClickHandler.name : ClickHandler → String
  | .replacePoster => "replacePoster"

/-- The click handler of a name. -/
def ClickHandler.ofName? (name : String) : Except Failure ClickHandler :=
  if name = ClickHandler.replacePoster.name then .ok .replacePoster
  else .error (.unknownName (.clickHandler name))

/-- A choice given by name, the empty name standing for none. -/
def chosen {α : Type} (ofName? : String → Except Failure α) (name : String) :
    Except Failure (Option α) :=
  if name = "" then .ok none else (ofName? name).map some

/-! ### Options -/

/-- What posters are rendered with. -/
inductive TemplateChoice where
  /-- The template that a specifier refers to. -/
  | specifier (spec : String)
  /-- A compiled template at hand. -/
  | compiled (tokens : List Template.Token)
  deriving DecidableEq, Repr

/-- The options of a run. -/
structure Options where
  template : TemplateChoice
  placer : Option Placer
  onclick : Option ClickHandler
  /-- The selector of the element in a poster that the player replaces. -/
  posterSelector : String
  playerWidth : Nat
  playerHeight : Nat
  deriving DecidableEq, Repr

namespace Options

/-- The options with the defaults for all but the template: no placer, no click handler. -/
def ofTemplate (template : TemplateChoice) : Options :=
  ⟨template, none, none, Settings.default.posterSelector, Settings.default.playerWidth,
    Settings.default.playerHeight⟩

/-- The options that settings ask for. -/
def ofSettings (settings : Settings) : Except Failure Options := do
  let placer ← chosen Placer.ofName? settings.placer
  let onclick ← chosen ClickHandler.ofName? settings.onclick
  return ⟨.specifier settings.template, placer, onclick, settings.posterSelector,
    settings.playerWidth, settings.playerHeight⟩

end Options

/-! ### Reading names -/

/-- Reads the name of a placer. -/
def Placer.read : Json.Reader String := Json.variantOf (Placer.all.map Placer.name)

/-- Reads the name of a click handler. -/
def ClickHandler.read : Json.Reader String :=
  Json.variantOf [ClickHandler.replacePoster.name]

end VideoPosters
