import VideoPosters.Web

/-!
# Templates of a site

A template given by a path is fetched from the site that the templates belong to.

## Main definitions

* `Template.Site` — the address that paths are relative to.
* `Template.Site.ofText` — the site at an address.
* `Template.Site.locate` — the address of a path.
* `Template.Site.fetch` — the text at a path.
-/

namespace VideoPosters.Template

/-- The address that the paths of templates are relative to. -/
structure Site where
  base : Url
  deriving DecidableEq, Repr

namespace Site

/-- The site at an address. -/
def ofText (address : String) : Except Failure Site :=
  match Url.parse address with
  | .ok base => .ok ⟨base⟩
  | .error e => .error (.invalidUrl address e)

/-- The address of a path. -/
def locate (site : Site) (path : String) : Except Failure Url :=
  match site.base.join path with
  | .ok url => .ok url
  | .error e => .error (.invalidUrl path e)

/-- The text at a path. -/
def fetch (site : Site) (web : Web) (path : String) : Web.Exchange (Except Failure String) :=
  match site.locate path with
  | .ok url => (web.getText url Web.markupContent).map (·.mapError .foreign)
  | .error e => .silent (.error e)

end Site

end VideoPosters.Template
