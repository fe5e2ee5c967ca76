import VideoPosters.Proofs.Url.Written
import VideoPosters.Proofs.Video.Request
import VideoPosters.Proofs.Web

/-!
# What a request adds to the address of its service

The address of a service is any URL, with a query and a fragment or without.  A request is
that URL with three parameters behind those of its query, and differs from it in nothing
else; nor does what stands in the identifiers, the parts or the key reach beyond the
parameter that it is written in, when the request is read as parts or as a text that is cut
at its marks.  If the address is not a URL, nothing is requested.

## Main results

* `Service.of_mem_requests_fetch` — the requests that are made for the metadata of videos.
* `Service.requestUrl_extends_address` — **what a request adds to the address of its
  service.**
-/

namespace VideoPosters

namespace Video.Service

/-- What is asked for the metadata of videos is their request. -/
theorem of_mem_requests_fetch {service : Service} {web : Web} {ids : List String}
    {request : Web.Request} (h : request ∈ (service.fetch web ids).requests) :
    ∃ url, service.requestUrl ids = .ok url ∧ request.url = Web.withoutCredentials url := by
  rw [fetch] at h
  split at h
  · cases h
  · cases hurl : service.requestUrl ids with
    | error e =>
      rw [hurl] at h
      cases h
    | ok url =>
      rw [hurl] at h
      exact ⟨url, rfl, (Web.of_mem_requests_get h).1⟩

/-- Without a request nothing is asked. -/
theorem requests_fetch_eq_nil {service : Service} {ids : List String} {e : Failure}
    (h : service.requestUrl ids = .error e) (web : Web) :
    (service.fetch web ids).requests = [] := by
  refine List.eq_nil_iff_forall_not_mem.2 fun request hrequest => ?_
  obtain ⟨url, hurl, -⟩ := of_mem_requests_fetch hrequest
  rw [h] at hurl
  cases hurl

/-- **What a request adds to the address of its service.**  If the address is a URL, the
request for any identifiers differs from it in its query only; the parameters of the request
are those of the address, then the joined identifiers, the parts and the key as they are; its
written form is cut at the marks into what is written of the address up to its path, that
query, and the fragment of the address; and each request that is made has those parameters.
If the address is not a URL, there is no request, and none is made. -/
theorem requestUrl_extends_address (service : Service) (ids : List String) :
    (∀ address, Url.parse service.address = .ok address →
      ∃ url, service.requestUrl ids = .ok url ∧
        url = { address with query := url.query } ∧
        url.parameters = address.parameters ++ [("id".toList, joinIds ids),
          ("part".toList, service.part.toList), ("key".toList, service.key.toList)] ∧
        Url.cut url.render = ⟨address.renderUpToPath, url.query, address.fragment⟩ ∧
        ∀ web, ∀ request ∈ (service.fetch web ids).requests,
          request.url = Web.withoutCredentials url ∧
          request.url.parameters = url.parameters) ∧
    (∀ e, Url.parse service.address = .error e →
      service.requestUrl ids = .error (.invalidUrl service.address e) ∧
      ∀ web, (service.fetch web ids).requests = [] ∧
        (ids ≠ [] → (service.fetch web ids).outcome = .error (.invalidUrl service.address e))) := by
  refine ⟨fun address h => ?_, fun e h => ?_⟩
  · have hurl : service.requestUrl ids =
        .ok (address.withParameters (service.requestParameters ids)) := by
      rw [requestUrl, h]
    refine ⟨_, hurl, rfl, Url.parameters_withParameters address _, ?_,
      fun web request hrequest => ?_⟩
    · exact Url.cut_render (Url.isParted_withParameters (Url.isParted_of_parse h) _)
    · -- a request leaves out the credentials of its URL, which are no parameters
      obtain ⟨url, hrequested, heq⟩ := of_mem_requests_fetch hrequest
      rw [hurl] at hrequested
      obtain rfl := Except.ok.inj hrequested
      refine ⟨heq, ?_⟩
      rw [heq, Web.parameters_withoutCredentials]
  · have hurl : service.requestUrl ids = .error (.invalidUrl service.address e) := by
      rw [requestUrl, h]
    refine ⟨hurl, fun web => ⟨requests_fetch_eq_nil hurl web, fun hne => ?_⟩⟩
    rw [fetch, if_neg (by simpa using hne), hurl]
    rfl

/-- An address with parameters and a fragment of its own, and marks of all kinds in the
identifiers, the parts and the key; then an address that is not a URL. -/
theorem requestUrl_extends_address_marks :
    (∃ address url, Url.parse "http://a/v?id=x&q#f" = .ok address ∧
      requestUrl ⟨"http://a/v?id=x&q#f", "K&id=y#z", "p +%41"⟩ ["é=", "b "] = .ok url ∧
      url.parameters = [("id".toList, "x".toList), ("q".toList, []),
        ("id".toList, "é=,b ".toList), ("part".toList, "p +%41".toList),
        ("key".toList, "K&id=y#z".toList)] ∧
      (Url.cut url.render).upToPath = "http://a/v".toList ∧
      (Url.cut url.render).fragment = some ['f']) ∧
    (requestUrl ⟨"a/v", "K", "p"⟩ ["x"] = .error (.invalidUrl "a/v" .relativeWithoutBase) ∧
      ∀ web, (fetch ⟨"a/v", "K", "p"⟩ web ["x"]).requests = []) := by
  constructor
  · let address : Url := ⟨"http".toList, [], [], some (.name ['a']), none, .segments [['v']],
      some "id=x&q".toList, some ['f']⟩
    have haddress : Url.parse "http://a/v?id=x&q#f" = .ok address := rfl
    have hfront : address.renderUpToPath = "http://a/v".toList := by decide +kernel
    obtain ⟨url, hurl, -, hparameters, hcut, -⟩ :=
      (requestUrl_extends_address ⟨"http://a/v?id=x&q#f", "K&id=y#z", "p +%41"⟩
        ["é=", "b "]).1 _ haddress
    exact ⟨address, url, haddress, hurl, hparameters.trans (by decide +kernel),
      (congrArg Url.Cut.upToPath hcut).trans hfront, congrArg Url.Cut.fragment hcut⟩
  · have haddress : Url.parse "a/v" = .error .relativeWithoutBase := rfl
    obtain ⟨hurl, hnone⟩ :=
      (requestUrl_extends_address ⟨"a/v", "K", "p"⟩ ["x"]).2 _ haddress
    exact ⟨hurl, fun web => (hnone web).1⟩

end Video.Service

end VideoPosters
