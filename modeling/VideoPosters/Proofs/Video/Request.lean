import VideoPosters.Poster.Making
import VideoPosters.Proofs.Url.Form

/-!
# The videos that a request names

A request names its videos in one parameter, with commas between the identifiers.  All
parameters of a request are read back as they were given, so that the request tells apart
what the commas tell apart, and no more: it names just the videos it is for if none of
their identifiers holds a comma.  But the identifier in a link goes on to the first of
`/`, `?`, `&` and `#`, and a comma is none of them.

## Main definitions

* `namesIn` — the texts between the commas of an identifier.
* `namedVideos?` — the videos that a request names.

## Main results

* `Service.parameters_requestUrl` — the parameters of a request are read back.
* `Service.namedVideos?_requestUrl` — **the videos that a request names, and the requests
  that name the same.**
* `Service.requestUrl_shared` — a request for one video that is the request for two others.
-/

namespace VideoPosters.Video

open Text (splitAt joinWith)

/-- The texts between the commas of an identifier. -/
def namesIn (id : String) : List String := (splitAt ',' id.toList).map String.ofList

/-- The videos that a request names: what stands between the commas of its last parameter
`id`. -/
def namedVideos? (url : Url) : Option (List String) :=
  (url.parameters.reverse.find? (·.1 = "id".toList)).map fun p =>
    (splitAt ',' p.2).map String.ofList

/-! ### Identifiers and commas -/

/-- An identifier without commas is one name. -/
theorem namesIn_of_notMem {id : String} (h : ',' ∉ id.toList) : namesIn id = [id] := by
  rw [namesIn, Text.splitAt_of_notMem h, List.map_singleton, String.ofList_toList]

/-- No name holds a comma. -/
theorem notMem_of_mem_namesIn {id name : String} (h : name ∈ namesIn id) : ',' ∉ name.toList := by
  rw [namesIn, List.mem_map] at h
  obtain ⟨piece, hpiece, rfl⟩ := h
  rw [String.toList_ofList]
  exact Text.notMem_of_mem_splitAt hpiece

/-- The names in some identifiers are the identifiers themselves just if none holds a
comma. -/
theorem flatMap_namesIn_eq_self_iff {ids : List String} :
    ids.flatMap namesIn = ids ↔ ∀ id ∈ ids, ',' ∉ id.toList := by
  constructor
  · intro h id hid
    rw [← h, List.mem_flatMap] at hid
    obtain ⟨_, -, hname⟩ := hid
    exact notMem_of_mem_namesIn hname
  · intro h
    induction ids with
    | nil => rfl
    | cons id rest ih =>
      rw [List.forall_mem_cons] at h
      rw [List.flatMap_cons, namesIn_of_notMem h.1, ih h.2, List.singleton_append]

namespace Service

/-- Joined identifiers are cut into the names in each of them. -/
theorem splitAt_joinIds {ids : List String} (hne : ids ≠ []) :
    (splitAt ',' (joinIds ids)).map String.ofList = ids.flatMap namesIn := by
  have hpieces : ids.map String.toList ≠ [] := by simpa using hne
  rw [joinIds, Text.splitAt_joinWith_eq_flatMap ',' hpieces, List.map_flatMap, List.flatMap_map]
  rfl

/-- Identifiers are joined alike just if the same names are in them. -/
theorem joinIds_eq_iff {ids others : List String} (hne : ids ≠ []) (hne' : others ≠ []) :
    joinIds ids = joinIds others ↔ ids.flatMap namesIn = others.flatMap namesIn := by
  rw [← splitAt_joinIds hne, ← splitAt_joinIds hne']
  constructor
  · intro h
    rw [h]
  · intro h
    have hpieces : splitAt ',' (joinIds ids) = splitAt ',' (joinIds others) :=
      (List.map_inj_right fun _ _ => String.ofList_injective).1 h
    rw [← Text.joinWith_splitAt ',' (joinIds ids), hpieces, Text.joinWith_splitAt]

/-! ### Requests -/

/-- A service with an address can always be asked, and the parameters of the request are
read back behind those of the address. -/
theorem parameters_requestUrl {service : Service} {address : Url}
    (h : Url.parse service.address = .ok address) (ids : List String) :
    ∃ url, service.requestUrl ids = .ok url ∧
      url.parameters = address.parameters ++ service.requestParameters ids := by
  refine ⟨address.withParameters (service.requestParameters ids), ?_, ?_⟩
  · rw [requestUrl, h]
  · exact Url.parameters_withParameters address _

/-- The last parameter `id` of a request is its own, whatever the address holds. -/
theorem namedVideos?_of_parameters {service : Service} {url : Url} {before : List Url.Parameter}
    {ids : List String} (hne : ids ≠ [])
    (h : url.parameters = before ++ service.requestParameters ids) :
    namedVideos? url = some (ids.flatMap namesIn) := by
  have hlast : url.parameters.reverse.find? (·.1 = "id".toList) =
      some ("id".toList, joinIds ids) := by
    rw [h, requestParameters]
    simp
  rw [namedVideos?, hlast, Option.map_some, splitAt_joinIds hne]

/-- **The videos that a request names, and the requests that name the same.**  If the address
is a URL, there is a request for any videos; its parameters are those of the address, then
the joined identifiers, the parts and the key.  It names the texts between the commas of the
identifiers, and so the videos it is for just if none of them holds a comma.  Requests are
the same just if they name the same, so that two lists without commas have two requests. -/
theorem namedVideos?_requestUrl {service : Service} {address : Url}
    (h : Url.parse service.address = .ok address) :
    (∀ ids, ids ≠ [] → ∃ url, service.requestUrl ids = .ok url ∧
      url.parameters = address.parameters ++ [("id".toList, joinIds ids),
        ("part".toList, service.part.toList), ("key".toList, service.key.toList)] ∧
      namedVideos? url = some (ids.flatMap namesIn) ∧
      (namedVideos? url = some ids ↔ ∀ id ∈ ids, ',' ∉ id.toList)) ∧
    (∀ ids others, ids ≠ [] → others ≠ [] →
      (service.requestUrl ids = service.requestUrl others ↔
        ids.flatMap namesIn = others.flatMap namesIn)) ∧
    (∀ ids others, ids ≠ [] → others ≠ [] → (∀ id ∈ ids, ',' ∉ id.toList) →
      (∀ id ∈ others, ',' ∉ id.toList) →
      service.requestUrl ids = service.requestUrl others → ids = others) := by
  have hrequests : ∀ ids others, ids ≠ [] → others ≠ [] →
      (service.requestUrl ids = service.requestUrl others ↔
        ids.flatMap namesIn = others.flatMap namesIn) := by
    intro ids others hne hne'
    rw [← joinIds_eq_iff hne hne']
    constructor
    · intro heq
      obtain ⟨url, hurl, hparameters⟩ := parameters_requestUrl h ids
      obtain ⟨url', hurl', hparameters'⟩ := parameters_requestUrl h others
      rw [hurl, hurl'] at heq
      -- both requests have the parameters of one address, and then their own
      rw [Except.ok.inj heq, hparameters'] at hparameters
      have hsame := List.append_cancel_left hparameters
      rw [requestParameters, requestParameters, List.cons.injEq, Prod.mk.injEq] at hsame
      exact hsame.1.2.symm
    · intro heq
      rw [requestUrl, requestUrl, requestParameters, requestParameters, heq]
  refine ⟨fun ids hne => ?_, hrequests, fun ids others hne hne' hids hothers heq => ?_⟩
  · obtain ⟨url, hurl, hparameters⟩ := parameters_requestUrl h ids
    have hnamed := namedVideos?_of_parameters hne hparameters
    refine ⟨url, hurl, hparameters, hnamed, ?_⟩
    rw [hnamed, Option.some.injEq]
    exact flatMap_namesIn_eq_self_iff
  · rw [hrequests ids others hne hne', flatMap_namesIn_eq_self_iff.2 hids,
      flatMap_namesIn_eq_self_iff.2 hothers] at heq
    exact heq

/-- A service whose address has parameters of its own, one of them an `id`; identifiers with
marks of a query in them, with a comma and without. -/
theorem namedVideos?_requestUrl_marks :
    let service : Service := ⟨"http://a/v?id=x&q", "K&id=y", "p"⟩
    ∃ address, Url.parse service.address = .ok address ∧
      address.parameters = [("id".toList, "x".toList), ("q".toList, [])] ∧
      (∃ url, service.requestUrl ["é=", "b "] = .ok url ∧ namedVideos? url = some ["é=", "b "]) ∧
      (∃ url, service.requestUrl ["a,b", "c"] = .ok url ∧
        namedVideos? url = some ["a", "b", "c"]) := by
  intro service
  have haddress : Url.parse service.address = .ok ⟨"http".toList, [], [], some (.name ['a']), none,
      .segments [['v']], some "id=x&q".toList, none⟩ := by
    show Url.parse "http://a/v?id=x&q" = _
    rfl
  obtain ⟨hnamed, -, -⟩ := namedVideos?_requestUrl haddress
  refine ⟨_, haddress, by decide +kernel, ?_, ?_⟩
  · obtain ⟨url, hurl, -, -, hiff⟩ := hnamed ["é=", "b "] (by simp)
    exact ⟨url, hurl, hiff.2 (by decide +kernel)⟩
  · obtain ⟨url, hurl, -, hnames, -⟩ := hnamed ["a,b", "c"] (by simp)
    exact ⟨url, hurl, hnames.trans (by decide +kernel)⟩

/-- Three links to three videos: what is asked about the first video is what is asked about
the two others, and names just those. -/
theorem requestUrl_shared :
    let service : Service := ⟨"http://a/v", "K", "p"⟩
    let first := [Link.ofHref "https://youtu.be/a,b"]
    let others := ["https://youtu.be/a", "https://youtu.be/b"].map Link.ofHref
    videoIds first = ["a,b"] ∧ videoIds others = ["a", "b"] ∧
    service.requestUrl (videoIds first) = service.requestUrl (videoIds others) ∧
    ∃ url, service.requestUrl (videoIds first) = .ok url ∧ namedVideos? url = some ["a", "b"] := by
  intro service first others
  have hfirst : videoIds first = ["a,b"] := by decide +kernel
  have hothers : videoIds others = ["a", "b"] := by decide +kernel
  have haddress : Url.parse service.address = .ok ⟨"http".toList, [], [], some (.name ['a']), none,
      .segments [['v']], none, none⟩ := by
    show Url.parse "http://a/v" = _
    rfl
  obtain ⟨url, hurl, hparameters⟩ := parameters_requestUrl haddress ["a,b"]
  rw [hfirst, hothers]
  refine ⟨rfl, rfl, ?_, url, hurl, ?_⟩
  · rw [requestUrl, requestUrl]
    rfl
  · exact (namedVideos?_of_parameters (by simp) hparameters).trans (by decide +kernel)

end Service

end VideoPosters.Video
