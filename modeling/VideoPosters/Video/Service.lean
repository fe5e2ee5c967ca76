import VideoPosters.Settings
import VideoPosters.Url.Form
import VideoPosters.Video
import VideoPosters.Web

/-!
# The data service

The data service reports the metadata of videos.  One request asks for all of them: the
identifiers, the parts of the metadata and the key are appended to the query of the
service's address.

## Main definitions

* `Video.Service` — the address, the key and the parts.
* `Video.Service.requestUrl` — the address of a request.
* `Video.Service.fetch` — the metadata of some videos.
-/

namespace VideoPosters.Video

/-- A data service. -/
structure Service where
  /-- The address. -/
  address : String
  key : String
  /-- The parts of the metadata to ask for. -/
  part : String
  deriving DecidableEq, Repr

namespace Service

/-- The name of the service. -/
def name : String := "youtube-data-api"

/-- The service that settings describe. -/
def ofSettings (settings : Settings) : Except Failure Service := do
  return ⟨settings.apiUrl, ← settings.requireApiKey, settings.part⟩

/-- The identifiers of a request with commas between them. -/
def joinIds (ids : List String) : List Char := Text.joinWith [','] (ids.map String.toList)

/-- The parameters of a request. -/
def requestParameters (service : Service) (ids : List String) : List Url.Parameter :=
  [("id".toList, joinIds ids), ("part".toList, service.part.toList),
    ("key".toList, service.key.toList)]

/-- The address of a request for some videos. -/
def requestUrl (service : Service) (ids : List String) : Except Failure Url :=
  match Url.parse service.address with
  | .ok url => .ok (url.withParameters (service.requestParameters ids))
  | .error e => .error (.invalidUrl service.address e)

/-- The metadata in the body of an answer. -/
def itemsOf (service : Service) (response : Web.Response) : Except Failure (List Item) :=
  if Web.isSuccess response.status then
    match Json.Reader.ofText readListing (if response.status = 204 then "" else response.body) with
    | .ok listing => .ok listing.items
    | .error _ => .error (.foreign "error decoding response body")
  else .error (.fetch service.address (Web.statusText response.status))

/-- The metadata of some videos.  Nothing is asked if no video is named. -/
def fetch (service : Service) (web : Web) (ids : List String) :
    Web.Exchange (Except Failure (List Item)) :=
  if ids.isEmpty then .silent (.ok [])
  else
    match service.requestUrl ids with
    | .error e => .silent (.error e)
    | .ok url =>
      (web.get url Web.anyContent).map fun
        | .error reason => .error (.fetch service.address reason)
        | .ok response => service.itemsOf response

end Service

end VideoPosters.Video
