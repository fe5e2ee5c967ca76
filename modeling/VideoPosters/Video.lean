import VideoPosters.Duration
import VideoPosters.Json.Reading

/-!
# Videos

The metadata of a video as the data service reports it.  The fields used here are
declared; every other field is kept, so that templates can reach it.

## Main definitions

* `Video.Thumbnail`, `Video.Snippet`, `Video.Details`, `Video.Item` — the metadata.
* `Video.Listing` — the answer to a request for several videos.
* `Video.readItem`, `Video.readListing` — reading them.
* `Video.Item.toJson`, `Video.Listing.toJson` — writing them.
* `Video` — an item with its playing time and the identifier of its poster.
* `Video.templateData` — what templates see of a video.
-/

namespace VideoPosters

namespace Video

open Json (Node Passage Break ReadError Reader)

/-- A preview image. -/
structure Thumbnail where
  url : String
  width : Option Nat
  height : Option Nat
  deriving Repr, Inhabited

/-- What a video says about itself. -/
structure Snippet where
  title : String
  description : String
  channelTitle : String
  /-- The preview images by the name of their size. -/
  thumbnails : Entries Thumbnail
  extra : Entries Json
  deriving Repr, Inhabited

/-- Technical details of a video. -/
structure Details where
  /-- The duration as ISO 8601 writes it. -/
  duration : String
  extra : Entries Json
  deriving Repr, Inhabited

/-- The metadata of a video. -/
structure Item where
  id : String
  snippet : Option Snippet
  details : Option Details
  extra : Entries Json
  deriving Repr, Inhabited

/-- The answer to a request for several videos. -/
structure Listing where
  kind : String
  items : List Item
  deriving Repr, Inhabited

/-! ### Reading -/

/-- Fills a slot of a record that is being read: a field may come only once. -/
def once {α : Type} (name : String) (slot : Option α) (value : Except ReadError α) :
    Except ReadError (Option α) :=
  match slot with
  | some _ => Json.mismatch (.duplicateField name)
  | none => value.map some

/-- The value of a slot that has to be filled. -/
def required {α : Type} (name : String) : Option α → Except ReadError α
  | some value => .ok value
  | none => Json.mismatch (.missingField name)

/-- A thumbnail that is being read. -/
structure ThumbnailDraft where
  url : Option String := none
  width : Option (Option Nat) := none
  height : Option (Option Nat) := none

/-- Reads a field of a thumbnail.  Unknown fields are skipped. -/
def ThumbnailDraft.step (room : Nat) (draft : ThumbnailDraft) (name : String) (node : Node) :
    Except ReadError ThumbnailDraft :=
  match name with
  | "url" => do return { draft with url := ← once name draft.url (Json.string room node) }
  | "width" => do
    return { draft with width := ← once name draft.width (Json.optional Json.word32 room node) }
  | "height" => do
    return { draft with height := ← once name draft.height (Json.optional Json.word32 room node) }
  | _ => do Json.skip node; return draft

/-- The words for a thumbnail given as an array that is too short. -/
def thumbnailLength : String := "struct Thumbnail with 3 elements"

/-- Reads the next place of a thumbnail given as an array, of which `place` went before. -/
def thumbnailPlace {α : Type} (read : Node → Except ReadError α) (place : Nat)
    (items : List Node) (stop : Option Break) : Except ReadError (α × List Node) := do
  match ← Json.nextItem items stop with
  | some (node, rest) => return (← read node, rest)
  | none => Json.mismatch (.wrongLength place thumbnailLength)

/-- Reads a thumbnail: an object, or an array of all three values. -/
def readThumbnail : Reader Thumbnail
  | room, .object fields stop => do
    Json.enter room
    let draft ← Json.foldFields (ThumbnailDraft.step (room - 1)) {} fields stop
    return ⟨← required "url" draft.url, draft.width.getD none, draft.height.getD none⟩
  | room, .array items stop => do
    Json.enter room
    let (url, items) ← thumbnailPlace (Json.string (room - 1)) 0 items stop
    let (width, items) ← thumbnailPlace (Json.optional Json.word32 (room - 1)) 1 items stop
    let (height, items) ← thumbnailPlace (Json.optional Json.word32 (room - 1)) 2 items stop
    Json.endItems items stop
    return ⟨url, width, height⟩
  | _, node => node.reject "struct Thumbnail"

/-- A snippet that is being read. -/
structure SnippetDraft where
  title : Option String := none
  description : Option String := none
  channelTitle : Option String := none
  thumbnails : Option (Entries Thumbnail) := none
  extra : Entries Json := []

/-- Reads a field of a snippet.  Fields that are not declared are kept. -/
def SnippetDraft.step (room : Nat) (draft : SnippetDraft) (name : String) (node : Node) :
    Except ReadError SnippetDraft :=
  match name with
  | "title" => do
    return { draft with title := ← once name draft.title (Json.string room node) }
  | "description" => do
    return { draft with description := ← once name draft.description (Json.string room node) }
  | "channelTitle" => do
    return { draft with channelTitle := ← once name draft.channelTitle (Json.string room node) }
  | "thumbnails" => do
    return { draft with
      thumbnails := ← once name draft.thumbnails (Json.entriesOf readThumbnail room node) }
  | _ => do return { draft with extra := draft.extra.insert name (← Json.anyValue room node) }

/-- Reads a snippet. -/
def readSnippet : Reader Snippet
  | room, .object fields stop => do
    Json.enter room
    let draft ← Json.foldFields (SnippetDraft.step (room - 1)) {} fields stop
    return ⟨draft.title.getD "", draft.description.getD "", draft.channelTitle.getD "",
      draft.thumbnails.getD [], draft.extra⟩
  | _, node => node.reject "struct Snippet"

/-- Technical details that are being read. -/
structure DetailsDraft where
  duration : Option String := none
  extra : Entries Json := []

/-- Reads a field of the technical details.  Fields that are not declared are kept. -/
def DetailsDraft.step (room : Nat) (draft : DetailsDraft) (name : String) (node : Node) :
    Except ReadError DetailsDraft :=
  match name with
  | "duration" => do
    return { draft with duration := ← once name draft.duration (Json.string room node) }
  | _ => do return { draft with extra := draft.extra.insert name (← Json.anyValue room node) }

/-- Reads technical details. -/
def readDetails : Reader Details
  | room, .object fields stop => do
    Json.enter room
    let draft ← Json.foldFields (DetailsDraft.step (room - 1)) {} fields stop
    return ⟨draft.duration.getD "", draft.extra⟩
  | _, node => node.reject "struct ContentDetails"

/-- An item that is being read. -/
structure ItemDraft where
  id : Option String := none
  snippet : Option (Option Snippet) := none
  details : Option (Option Details) := none
  extra : Entries Json := []

/-- Reads a field of an item.  Fields that are not declared are kept. -/
def ItemDraft.step (room : Nat) (draft : ItemDraft) (name : String) (node : Node) :
    Except ReadError ItemDraft :=
  match name with
  | "id" => do return { draft with id := ← once name draft.id (Json.string room node) }
  | "snippet" => do
    return { draft with
      snippet := ← once name draft.snippet (Json.optional readSnippet room node) }
  | "contentDetails" => do
    return { draft with
      details := ← once name draft.details (Json.optional readDetails room node) }
  | _ => do return { draft with extra := draft.extra.insert name (← Json.anyValue room node) }

/-- Reads an item. -/
def readItem : Reader Item
  | room, .object fields stop => do
    Json.enter room
    let draft ← Json.foldFields (ItemDraft.step (room - 1)) {} fields stop
    return ⟨← required "id" draft.id, draft.snippet.getD none, draft.details.getD none,
      draft.extra⟩
  | _, node => node.reject "struct VideoItem"

/-- A listing that is being read. -/
structure ListingDraft where
  kind : Option String := none
  items : Option (List Item) := none

/-- Reads a field of a listing.  Unknown fields are skipped. -/
def ListingDraft.step (room : Nat) (draft : ListingDraft) (name : String) (node : Node) :
    Except ReadError ListingDraft :=
  match name with
  | "kind" => do return { draft with kind := ← once name draft.kind (Json.string room node) }
  | "items" => do
    return { draft with
      items := ← once name draft.items (Json.sequenceOf readItem room node) }
  | _ => do Json.skip node; return draft

/-- Reads a listing: an object, or an array of up to two values. -/
def readListing : Reader Listing
  | room, .object fields stop => do
    Json.enter room
    let draft ← Json.foldFields (ListingDraft.step (room - 1)) {} fields stop
    return ⟨draft.kind.getD "", draft.items.getD []⟩
  | room, .array items stop => do
    Json.enter room
    match ← Json.nextItem items stop with
    | none => return ⟨"", []⟩
    | some (kindNode, rest) =>
      let kind ← Json.string (room - 1) kindNode
      match ← Json.nextItem rest stop with
      | none => return ⟨kind, []⟩
      | some (itemsNode, rest) =>
        let items ← Json.sequenceOf readItem (room - 1) itemsNode
        Json.endItems rest stop
        return ⟨kind, items⟩
  | _, node => node.reject "struct VideoListResponse"

/-! ### Writing -/

/-- A number that may be absent. -/
def numberOrNull : Option Nat → Json
  | some n => .int n
  | none => .null

/-- A thumbnail as a value. -/
def Thumbnail.toJson (t : Thumbnail) : Json :=
  .object (Entries.ofList [("url", .text t.url), ("width", numberOrNull t.width),
    ("height", numberOrNull t.height)])

/-- A snippet as a value. -/
def Snippet.toJson (s : Snippet) : Json :=
  .object ((Entries.ofList [("title", .text s.title),
    ("description", .text s.description), ("channelTitle", .text s.channelTitle),
    ("thumbnails", .object (s.thumbnails.map fun (name, t) => (name, t.toJson)))]).insertAll
    s.extra)

/-- Technical details as a value. -/
def Details.toJson (d : Details) : Json :=
  .object ((Entries.ofList [("duration", .text d.duration)]).insertAll d.extra)

/-- The fields of an item. -/
def Item.fields (item : Item) : Entries Json :=
  (Entries.ofList [("id", .text item.id),
    ("snippet", (item.snippet.map Snippet.toJson).getD .null),
    ("contentDetails", (item.details.map Details.toJson).getD .null)]).insertAll item.extra

/-- An item as a value. -/
def Item.toJson (item : Item) : Json := .object item.fields

/-- A listing as a value. -/
def Listing.toJson (l : Listing) : Json :=
  .object (Entries.ofList [("kind", .text l.kind), ("items", .array (l.items.map Item.toJson))])

/-! ### Derived data -/

/-- The title of a video; empty if nothing is known of it. -/
def Item.title (item : Item) : String := (item.snippet.map Snippet.title).getD ""

/-- The duration of a video; zero if nothing is known of it. -/
def Item.duration (item : Item) : Duration :=
  (item.details.map fun d => Duration.parse d.duration).getD .zero

/-- The names of the sizes of preview images, largest first. -/
def thumbnailSizes : List String := ["maxres", "standard", "high", "medium", "default"]

/-- The address of the largest preview image of a named size. -/
def Item.thumbnailUrl? (item : Item) : Option String := do
  let snippet ← item.snippet
  (thumbnailSizes.findSome? fun size => snippet.thumbnails.get? size).map Thumbnail.url

/-- The element identifier of the poster of a video. -/
def posterIdOf (videoId : String) : String := "autotube-poster-" ++ videoId

end Video

/-- A video: its metadata, and what is derived from it for rendering. -/
structure Video where
  item : Video.Item
  playingTime : String
  posterId : String
  deriving Repr, Inhabited

namespace Video

/-- A video of the given metadata. -/
def ofItem (item : Item) : Video := ⟨item, item.duration.display, posterIdOf item.id⟩

/-- What templates see of a video: its metadata with the playing time and the identifier
of the poster added. -/
def templateData (v : Video) : Json :=
  .object ((v.item.fields.insert "_playingTime" (.text v.playingTime)).insert "_posterId"
    (.text v.posterId))

end Video

end VideoPosters
