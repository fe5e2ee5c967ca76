import VideoPosters.Failure
import VideoPosters.Json.Entries
import VideoPosters.Specifier
import VideoPosters.Template.Compile

/-!
# The template shelf

The shelf keeps compiled templates under their specifiers, so that each is compiled once.
Embedded templates are at hand; templates given by a path have to be fetched; the text of
a template is compiled anew each time and never kept.

## Main definitions

* `Template.Compiled`, `Template.Shelf` — a compiled template, and those that are kept.
* `Template.Shelf.resolve` — the template that a specifier refers to.
* `Template.Shelf.receive` — a fetched template arrives.
* `Template.Shelf.Run` — the templates resolved so far, with their fetches.
-/

namespace VideoPosters.Template

/-- A compiled template.  Each compilation has a number of its own. -/
structure Compiled where
  serial : Nat
  tokens : List Token
  deriving DecidableEq, Repr

/-- The templates that are kept. -/
structure Shelf where
  entries : Entries Compiled
  /-- The number of the next compilation. -/
  next : Nat
  deriving DecidableEq, Repr

/-- What a specifier refers to. -/
inductive Resolved where
  /-- A template at hand. -/
  | ready (template : Compiled)
  /-- A template to be fetched. -/
  | toFetch (path : String)
  deriving DecidableEq, Repr

namespace Shelf

/-- The empty shelf. -/
def empty : Shelf := ⟨[], 0⟩

/-- The number of templates that are kept. -/
def size (shelf : Shelf) : Nat := shelf.entries.length

/-- Whether a template is kept under a specifier. -/
def contains (shelf : Shelf) (spec : String) : Bool := (shelf.entries.get? spec).isSome

/-- Compiles a text; `name` names it where it does not compile. -/
def compileAs (name text : String) (shelf : Shelf) : Except Failure Compiled × Shelf :=
  match compile text with
  | .ok tokens => (.ok ⟨shelf.next, tokens⟩, { shelf with next := shelf.next + 1 })
  | .error e => (.error (.compile name e), shelf)

/-- Compiles a text and keeps the template under a specifier, which also names it. -/
def compileAndKeep (spec text : String) (shelf : Shelf) : Except Failure Compiled × Shelf :=
  match shelf.compileAs spec text with
  | (.ok template, shelf) =>
    (.ok template, { shelf with entries := shelf.entries.insert spec template })
  | (.error e, shelf) => (.error e, shelf)

/-- The template that a specifier refers to; `embedded?` gives the text of the embedded
templates. -/
def resolve (embedded? : String → Option String) (spec : String) (shelf : Shelf) :
    Except Failure Resolved × Shelf :=
  match shelf.entries.get? spec with
  | some template => (.ok (.ready template), shelf)
  | none =>
    match Specifier.classify spec with
    | .identifier id =>
      match embedded? id with
      | none => (.error (.templateNotFound id), shelf)
      | some text =>
        let (outcome, shelf) := shelf.compileAndKeep id text
        (outcome.map .ready, shelf)
    | .path path => (.ok (.toFetch path), shelf)
    | .literal text =>
      let (outcome, shelf) := shelf.compileAs (excerpt text) text
      (outcome.map .ready, shelf)

/-- A fetched template arrives, or the reason why there is none. -/
def receive (path : String) (outcome : Except String String) (shelf : Shelf) :
    Except Failure Compiled × Shelf :=
  match outcome with
  | .ok text => shelf.compileAndKeep path text
  | .error reason => (.error (.fetch path reason), shelf)

/-! ### Runs -/

/-- A template that was resolved and may have to be fetched. -/
inductive Order where
  | ready (template : Compiled)
  /-- The fetch has not begun: it begins when the order is looked after. -/
  | idle (path : String)
  | fetching (path : String)
  /-- The template has been taken, or nobody waits for it any more. -/
  | gone
  deriving DecidableEq, Repr

/-- A shelf with the orders made so far. -/
structure Run where
  shelf : Shelf
  orders : List Order
  /-- The paths fetched so far, the latest first. -/
  fetched : List String
  deriving DecidableEq, Repr

/-- What has become of an order. -/
inductive Status where
  | pending
  | done (outcome : Except Failure Compiled)
  | taken

namespace Run

/-- The run of an empty shelf. -/
def start : Run := ⟨Shelf.empty, [], []⟩

/-- Resolves a specifier and makes an order; returns its number. -/
def order (embedded? : String → Option String) (spec : String) (r : Run) :
    Except Failure Nat × Run :=
  match r.shelf.resolve embedded? spec with
  | (.ok (.ready template), shelf) =>
    (.ok r.orders.length, { r with shelf, orders := r.orders ++ [.ready template] })
  | (.ok (.toFetch path), shelf) =>
    (.ok r.orders.length, { r with shelf, orders := r.orders ++ [.idle path] })
  | (.error e, shelf) => (.error e, { r with shelf })

/-- A fetch that has begun: what arrives, if anything, is compiled and kept. -/
def arrive (i : Nat) (path : String) (arrival : Option (Except String String)) (r : Run) :
    Status × Run :=
  match arrival with
  | none => (.pending, { r with orders := r.orders.set i (.fetching path) })
  | some outcome =>
    let (outcome, shelf) := r.shelf.receive path outcome
    (.done outcome, { r with shelf, orders := r.orders.set i .gone })

/-- Looks after an order: an idle fetch begins, and what has arrived is dealt with. -/
def poll (i : Nat) (arrival : Option (Except String String)) (r : Run) : Status × Run :=
  match r.orders.getD i .gone with
  | .ready template => (.done (.ok template), { r with orders := r.orders.set i .gone })
  | .idle path => { r with fetched := path :: r.fetched }.arrive i path arrival
  | .fetching path => r.arrive i path arrival
  | .gone => (.taken, r)

/-- Gives up an order. -/
def drop (i : Nat) (r : Run) : Run := { r with orders := r.orders.set i .gone }

end Run

end Shelf

end VideoPosters.Template
