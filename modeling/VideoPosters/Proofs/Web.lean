import VideoPosters.Url.Form
import VideoPosters.Web

/-!
# What is requested

A request is made for the URL that is asked for, but for its user name and password, and
only where the web can be asked.

## Main results

* `Web.of_mem_requests_get` — the requests that asking for a URL leads to.
-/

namespace VideoPosters

@[simp] theorem Web.origin_withoutCredentials (url : Url) :
    (Web.withoutCredentials url).origin = url.origin := by
  rw [Web.withoutCredentials]
  split <;> rfl

@[simp] theorem Web.scheme_withoutCredentials (url : Url) :
    (Web.withoutCredentials url).scheme = url.scheme := by
  rw [Web.withoutCredentials]
  split <;> rfl

@[simp] theorem Web.parameters_withoutCredentials (url : Url) :
    (Web.withoutCredentials url).parameters = url.parameters := by
  rw [Web.withoutCredentials]
  split <;> rfl

/-- Requests are made of the web only, not of local files. -/
theorem Web.schemeKind_of_isRequestable {url : Url} (h : Web.isRequestable url = true) :
    Url.schemeKind url.scheme = .special := by
  rw [Web.isRequestable, Bool.and_eq_true, Bool.or_eq_true] at h
  rcases h.1 with hscheme | hscheme
  · rw [of_decide_eq_true hscheme]
    rfl
  · rw [of_decide_eq_true hscheme]
    rfl

/-- A request is made for the URL that is asked for, without user name and password, if one
can be made for it. -/
theorem Web.of_mem_requests_get {web : Web} {url : Url} {accept : String}
    {request : Web.Request} (h : request ∈ (web.get url accept).requests) :
    request.url = withoutCredentials url ∧ Web.isRequestable request.url = true := by
  rw [Web.get] at h
  dsimp only at h
  split at h
  · next hcan =>
    split at h
    · rw [List.mem_singleton.1 h]
      exact ⟨rfl, hcan⟩
    · cases h
  · cases h

end VideoPosters
