import VideoPosters.Proofs.Url.Join
import VideoPosters.Proofs.Web
import VideoPosters.Specifier
import VideoPosters.Template.Site

/-!
# Where templates are fetched from

A template given by a path is fetched from a site.  A specifier is taken for a path because
of its first character alone, while a URL may go on from there in two ways: behind a single
slash it stays at the host of the site, behind two it names a host of its own.  So a
specifier stays with its site just as far as no second slash is read behind the first.

## Main results

* `Site.requests_fetch` — a path that is fetched is asked for where it is located.
* `Site.origin_located` — **where the templates of a site are located and asked for.**
* `Site.located_elsewhere` — a path that is located at another host than that of its site.
-/

namespace VideoPosters

namespace Template.Site

/-- The base of a site whose address has been read. -/
theorem parse_base {address : String} {site : Site} (h : ofText address = .ok site) :
    Url.parse address = .ok site.base := by
  rw [ofText] at h
  cases hparse : Url.parse address with
  | error e =>
    rw [hparse] at h
    cases h
  | ok base =>
    rw [hparse] at h
    rw [← Except.ok.inj h]

/-- Paths are located as they are read relative to the base. -/
theorem locate_eq_ok_iff {site : Site} {path : String} {url : Url} :
    site.locate path = .ok url ↔ site.base.join path = .ok url := by
  rw [locate]
  cases site.base.join path with
  | error e => simp
  | ok url' => simp

/-- What is fetched is asked for where the path is located. -/
theorem requests_fetch {site : Site} {web : Web} {path : String} {request : Web.Request}
    (h : request ∈ (site.fetch web path).requests) :
    ∃ url, site.locate path = .ok url ∧ request.url = Web.withoutCredentials url ∧
      Web.isRequestable request.url = true := by
  rw [fetch] at h
  cases hlocate : site.locate path with
  | error e =>
    rw [hlocate] at h
    cases h
  | ok url =>
    rw [hlocate] at h
    exact ⟨url, rfl, Web.of_mem_requests_get h⟩

/-- Whatever the address of a site, what holds of local files holds of its base if that is
one. -/
theorem isFiled_base {address : String} {site : Site} (h : ofText address = .ok site)
    (hkind : Url.schemeKind site.base.scheme = .file) : Url.IsFiled site.base :=
  Url.isFiled_of_parse (parse_base h) hkind

section

variable {site : Site} {path : String} (hstart : path.toList.head? = some '/')
  (hfiled : Url.schemeKind site.base.scheme = .file → Url.IsFiled site.base)
  (hhost : Url.namesHost path = false)

include hstart hfiled hhost

/-- A path that names no host is located just if anything is relative to the base. -/
theorem located_iff :
    (∃ url, site.locate path = .ok url) ↔ ∃ parts, site.base.path = .segments parts := by
  simp only [locate_eq_ok_iff]
  cases hpath : site.base.path with
  | opaquePath _ => simp [Url.join_of_opaquePath hpath hstart]
  | segments parts =>
    obtain ⟨url, hurl, -⟩ := Url.origin_join hfiled hpath hstart hhost
    simp [hurl]

/-- A path that names no host is located at the site. -/
theorem origin_of_locate {url : Url}
    (hdrive : Url.schemeKind site.base.scheme = .file → Url.namesDrive path = false)
    (hurl : site.locate path = .ok url) : url.origin = site.base.origin := by
  obtain ⟨parts, hparts⟩ := (located_iff hstart hfiled hhost).1 ⟨url, hurl⟩
  obtain ⟨url', hurl', -, horigin⟩ := Url.origin_join hfiled hparts hstart hhost
  rw [locate_eq_ok_iff, hurl'] at hurl
  rw [← Except.ok.inj hurl]
  exact horigin hdrive

end

/-- **Where the templates of a site are located and asked for.**  A specifier that is taken
for a path keeps the scheme of the site.  If no second slash is read behind its first, it is
located whenever anything can be relative to the site, at the host and port of the site
unless it is the path of a local file with a drive letter; and each request that it leads to
goes to the scheme, host and port of the site.  If a second slash is read, sites of one
scheme locate the specifier at one place, wherever they are themselves. -/
theorem origin_located {address spec path : String} {site : Site}
    (hsite : ofText address = .ok site) (hspec : Specifier.classify spec = .path path) :
    (∀ url, site.locate path = .ok url → url.scheme = site.base.scheme) ∧
    (Url.namesHost path = false →
      ((∃ url, site.locate path = .ok url) ↔ ∃ parts, site.base.path = .segments parts) ∧
      (∀ url, site.locate path = .ok url →
        (Url.schemeKind site.base.scheme = .file → Url.namesDrive path = false) →
        url.origin = site.base.origin) ∧
      ∀ web, ∀ request ∈ (site.fetch web path).requests,
        request.url.origin = site.base.origin) ∧
    (Url.namesHost path = true → ∀ other : Site, other.base.scheme = site.base.scheme →
      ∀ parts parts', site.base.path = .segments parts → other.base.path = .segments parts' →
        other.locate path = site.locate path) := by
  obtain rfl := Specifier.eq_of_classify_path hspec
  have hstart := Specifier.head?_of_classify hspec
  have hfiled := isFiled_base hsite
  refine ⟨fun url hurl => Url.scheme_join hfiled hstart (locate_eq_ok_iff.1 hurl),
    fun hhost => ⟨located_iff hstart hfiled hhost,
      fun url hurl hdrive => origin_of_locate hstart hfiled hhost hdrive hurl, ?_⟩, ?_⟩
  · intro web request hrequest
    obtain ⟨url, hurl, heq, hcan⟩ := requests_fetch hrequest
    rw [heq, Web.origin_withoutCredentials]
    refine origin_of_locate hstart hfiled hhost (fun hkind => ?_) hurl
    -- local files are not asked for
    have hweb := Web.schemeKind_of_isRequestable hcan
    rw [heq, Web.scheme_withoutCredentials,
      Url.scheme_join hfiled hstart (locate_eq_ok_iff.1 hurl), hkind] at hweb
    cases hweb
  · intro hhost other hscheme parts parts' hparts hparts'
    rw [locate, locate, Url.join_of_namesHost hscheme hparts hparts' hstart hhost]

/-- A path behind a single slash is fetched from the site. -/
theorem origin_located_page :
    let site : Site :=
      ⟨⟨"http".toList, [], [], some (.name ['a']), none, .segments ["app".toList, []], none, none⟩⟩
    let url : Url :=
      ⟨"http".toList, [], [], some (.name ['a']), none, .segments [['t']], none, none⟩
    ofText "http://a/app/" = .ok site ∧ Specifier.classify "/t" = .path "/t" ∧
    site.locate "/t" = .ok url ∧ url.origin = site.base.origin ∧
    (site.fetch (fun _ => some ⟨200, "x"⟩) "/t").requests = [⟨url, Web.markupContent⟩] ∧
    ∀ request ∈ (site.fetch (fun _ => some ⟨200, "x"⟩) "/t").requests,
      request.url.origin = site.base.origin := by
  intro site url
  have hsite : ofText "http://a/app/" = .ok site := rfl
  have hspec : Specifier.classify "/t" = .path "/t" := by decide +kernel
  have hurl : site.locate "/t" = .ok url := rfl
  obtain ⟨-, hstay, -⟩ := origin_located hsite hspec
  obtain ⟨-, horigin, hrequests⟩ := hstay (by decide +kernel)
  exact ⟨hsite, hspec, hurl, horigin url hurl (fun hkind => absurd hkind (by decide +kernel)),
    by decide +kernel, hrequests _⟩

/-- A path behind two slashes is fetched from another host than that of the site. -/
theorem located_elsewhere :
    ∃ site url, ofText "http://a/app/" = .ok site ∧ Specifier.classify "//b/x" = .path "//b/x" ∧
      site.locate "//b/x" = .ok url ∧
      site.base.origin = ("http".toList, some (.name ['a']), none) ∧
      url.origin = ("http".toList, some (.name ['b']), none) ∧
      (site.fetch (fun _ => some ⟨200, "t"⟩) "//b/x").requests = [⟨url, Web.markupContent⟩] :=
  ⟨⟨⟨"http".toList, [], [], some (.name ['a']), none, .segments ["app".toList, []], none, none⟩⟩,
    ⟨"http".toList, [], [], some (.name ['b']), none, .segments [['x']], none, none⟩,
    rfl, by decide +kernel, rfl, rfl, rfl, by decide +kernel⟩

end Template.Site

end VideoPosters
