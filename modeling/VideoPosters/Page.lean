import VideoPosters.Html.Parse
import VideoPosters.Json.Entries
import VideoPosters.Link
import VideoPosters.Text.Blank
import VideoPosters.Text.Pieces

/-!
# Pages

What is looked for on a page: its links, and the templates in its script elements.  The elements
are gone through in the order in which they were made while the page was read.  That is not always
the order in which they stand in the tree: content that does not belong in a table is put in front
of what was read before it.

## Main definitions

* `Page.collapse` — the words of some texts with single spaces between them.
* `Page.linkOf?`, `Page.templateOf?` — the link, the template that an element is.
* `Page`, `Page.ofDraft`, `Page.parse` — what is found on a page.
* `Page.videoLinks` — the links that lead to videos.
-/

namespace VideoPosters

/-- What is looked for on a page. -/
structure Page where
  /-- The links, in the order in which their elements were made. -/
  links : List Link
  /-- The texts of the templates by their identifiers. -/
  templates : Entries String
  deriving Repr, Inhabited

namespace Page

open Html (Node)

/-- A page without links and templates. -/
def empty : Page := ⟨[], []⟩

/-- The words of some texts with single spaces between them. -/
def collapse (texts : List (List Char)) : List Char :=
  Text.joinWith [' '] (texts.flatMap Text.words)

/-- The text of a link, unless it is blank. -/
def linkText (texts : List (List Char)) : Option String :=
  if (collapse texts).isEmpty then none else some (String.ofList (collapse texts))

/-- The link that an element is: an `a` with an address. -/
def linkOf? (node : Node) : Option Link :=
  if node.isNamed "a" then
    (node.attribute? "href").map fun href => ⟨href, linkText node.texts⟩
  else none

/-- Whether a text occurs in another. -/
def occursIn (part : List Char) : List Char → Bool
  | [] => part.isEmpty
  | c :: s => part.isPrefixOf (c :: s) || occursIn part s

/-- Whether the type of a script says that it is a template. -/
def isTemplateType (kind : String) : Bool :=
  let kind := kind.toList.map Char.toLower
  occursIn "template".toList kind || kind = "text/html".toList

/-- The identifier and the text of the template that an element is: a script with an
identifier and the type of a template. -/
def templateOf? (node : Node) : Option (String × String) :=
  if node.isNamed "script" && (node.attribute? "type").any isTemplateType then
    (node.attribute? "id").map fun id => (id, String.ofList node.texts.flatten)
  else none

/-- The page whose nodes are given. -/
def ofDraft (d : Html.Draft) : Page :=
  ⟨(d.select "a").filterMap linkOf?,
    Entries.ofList ((d.select "script").filterMap templateOf?)⟩

/-- The page of a document. -/
def parse (document : String) : Page := ofDraft (Html.read document)

/-- The links that lead to videos. -/
def videoLinks (page : Page) : List Link := page.links.filter Link.isVideoLink

/-- The text of a template. -/
def template? (page : Page) (id : String) : Option String := page.templates.get? id

end Page

end VideoPosters
