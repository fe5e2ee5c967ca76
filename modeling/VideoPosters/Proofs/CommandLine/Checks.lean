import VideoPosters.Proofs.CommandLine.Output
import VideoPosters.Proofs.Template.Refusals

/-!
# What the program checks before it asks for anything

The settings are checked in several places on the way to the posters: when the site of the
templates and the data service are set up, when the options are read, and when the template
is resolved.  All of it comes before anything is fetched or asked for, and the first fault
that is met is the one that is told.

## Main definitions

* `Check`, `Check.rank` — what is checked, and in which order.
* `Fault`, `IsFirstFault` — what is wrong with the settings, and what is met first.
* `makingOf` — the posters of a run, if it gets as far as to make them.
* `FailsAtOnce` — posters fail before anything is fetched, asked for or placed.

## Main results

* `ofText_eq_error_iff`, `ofSettings_eq_error_iff`, `chosen_placer_eq_error_iff`,
  `chosen_clickHandler_eq_error_iff`, `awaitTemplate_eq_error_iff` — each check fails just
  for its faults.
* `exists_isFirstFault` — of all faults one is met first.
* `IsFirstFault.failsAtOnce` — no posters are made where there is a fault.
* `run_tells_first_fault` — **the first fault is told, and nothing was asked for.**
-/

namespace VideoPosters.CommandLine

open Template.Shelf (Refusal answer_eq_refused_iff)

/-- What is checked. -/
inductive Check where
  /-- The address of the site of the templates. -/
  | site
  /-- The key of the data service. -/
  | key
  | placer
  | clickHandler
  | template
  deriving DecidableEq, Repr

/-- The number of the checks before. -/
def Check.rank : Check → Nat
  | .site => 0
  | .key => 1
  | .placer => 2
  | .clickHandler => 3
  | .template => 4

/-- What is wrong with the settings of a run with some embedded templates, and the failure that
tells so. -/
inductive Fault (settings : Settings) (embedded? : String → Option String) :
    Check → Failure → Prop where
  | site {e} (h : Url.parse settings.templateBaseUrl = .error e) :
      Fault settings embedded? .site (.invalidUrl settings.templateBaseUrl e)
  | key (h : settings.apiKey = some "") : Fault settings embedded? .key .missingApiKey
  | placer (hne : settings.placer ≠ "") (h : ∀ placer : Placer, placer.name ≠ settings.placer) :
      Fault settings embedded? .placer (.unknownName (.placer settings.placer))
  | clickHandler (hne : settings.onclick ≠ "")
      (h : ∀ handler : ClickHandler, handler.name ≠ settings.onclick) :
      Fault settings embedded? .clickHandler (.unknownName (.clickHandler settings.onclick))
  | template {failure} (h : Refusal embedded? settings.template failure) :
      Fault settings embedded? .template failure

/-- The fault that is met first. -/
structure IsFirstFault (settings : Settings) (embedded? : String → Option String) (check : Check)
    (failure : Failure) : Prop where
  fault : Fault settings embedded? check failure
  first : ∀ earlier : Check, earlier.rank < check.rank →
    ∀ failure', ¬ Fault settings embedded? earlier failure'

section

variable {settings : Settings} {embedded? : String → Option String} {failure : Failure}

/-- Of all faults one is met first. -/
theorem exists_isFirstFault {check : Check} (h : Fault settings embedded? check failure) :
    ∃ first failure', IsFirstFault settings embedded? first failure' := by
  induction hn : check.rank using Nat.strongRecOn generalizing check failure with
  | ind n ih =>
    by_cases hearlier : ∃ earlier failure', earlier.rank < n ∧
        Fault settings embedded? earlier failure'
    · obtain ⟨earlier, failure', hlt, hfault⟩ := hearlier
      exact ih earlier.rank hlt hfault rfl
    · refine ⟨check, failure, h, fun earlier hlt failure' hfault => ?_⟩
      rw [hn] at hlt
      exact hearlier ⟨earlier, failure', hlt, hfault⟩

/-! ### Each check -/

theorem ofText_eq_error_iff : Template.Site.ofText settings.templateBaseUrl = .error failure ↔
    Fault settings embedded? .site failure := by
  rw [Template.Site.ofText]
  constructor
  · intro h
    split at h
    · cases h
    · next e hparse =>
      obtain rfl := Except.error.inj h
      exact .site hparse
  · intro h
    cases h with
    | site hparse => rw [hparse]

/-- A run that gets as far has a key, which may be empty. -/
theorem ofSettings_eq_error_iff (hkey : settings.apiKey ≠ none) :
    Video.Service.ofSettings settings = .error failure ↔
      Fault settings embedded? .key failure := by
  obtain ⟨key, hkey⟩ := Option.ne_none_iff_exists'.1 hkey
  by_cases hempty : key = ""
  · have hservice : Video.Service.ofSettings settings = .error .missingApiKey := by
      rw [Video.Service.ofSettings, Settings.requireApiKey, hkey]
      simp only [hempty, if_true]
      rfl
    rw [hservice]
    constructor
    · intro h
      obtain rfl := Except.error.inj h
      exact .key (hkey.trans (congrArg some hempty))
    · intro h
      cases h with
      | key _ => rfl
  · have hservice : Video.Service.ofSettings settings =
        .ok ⟨settings.apiUrl, key, settings.part⟩ := by
      rw [Video.Service.ofSettings, Settings.requireApiKey, hkey]
      simp only [hempty, if_false]
      rfl
    rw [hservice]
    refine iff_of_false (fun h => by cases h) fun h => ?_
    cases h with
    | key hnone => exact hempty (Option.some.inj (hkey.symm.trans hnone))

/-- A name that is not empty has to be the name of something. -/
theorem chosen_eq_error_iff {α : Type} {ofName? : String → Except Failure α} {name : String} :
    chosen ofName? name = .error failure ↔ name ≠ "" ∧ ofName? name = .error failure := by
  rw [chosen]
  by_cases hempty : name = ""
  · rw [if_pos hempty]
    exact iff_of_false (fun h => by cases h) fun h => h.1 hempty
  · rw [if_neg hempty]
    constructor
    · exact fun h => ⟨hempty, eq_error_of_map_eq_error h⟩
    · rintro ⟨-, h⟩
      rw [h]
      rfl

theorem chosen_placer_eq_error_iff :
    chosen Placer.ofName? settings.placer = .error failure ↔
      Fault settings embedded? .placer failure := by
  -- the placers that are searched are all there are
  have hall : Placer.all.find? (·.name = settings.placer) = none ↔
      ∀ placer : Placer, placer.name ≠ settings.placer := by
    rw [List.find?_eq_none]
    simp only [decide_eq_true_eq]
    refine ⟨fun h placer => h placer ?_, fun h placer _ => h placer⟩
    cases placer <;> decide
  rw [chosen_eq_error_iff, Placer.ofName?]
  constructor
  · rintro ⟨hne, h⟩
    split at h
    · cases h
    · next hnone =>
      obtain rfl := Except.error.inj h
      exact .placer hne (hall.1 hnone)
  · intro h
    cases h with
    | placer hne hnone => rw [hall.2 hnone]; exact ⟨hne, rfl⟩

theorem chosen_clickHandler_eq_error_iff :
    chosen ClickHandler.ofName? settings.onclick = .error failure ↔
      Fault settings embedded? .clickHandler failure := by
  rw [chosen_eq_error_iff, ClickHandler.ofName?]
  constructor
  · rintro ⟨hne, h⟩
    split at h
    · cases h
    · next hname =>
      obtain rfl := Except.error.inj h
      refine .clickHandler hne fun handler hsame => hname ?_
      cases handler
      exact hsame.symm
  · intro h
    cases h with
    | clickHandler hne hnone => exact ⟨hne, if_neg fun hname => hnone _ hname.symm⟩

theorem awaitTemplate_eq_error_iff {sources : Sources} (hsources : sources.embedded? = embedded?) :
    (awaitTemplate sources .empty (.specifier settings.template)).1 = .error failure ↔
      Fault settings embedded? .template failure := by
  have hfault : Fault settings embedded? .template failure ↔
      Refusal embedded? settings.template failure :=
    ⟨fun h => by cases h with | template h => exact h, .template⟩
  -- the answer to a specifier does not depend on the shelf, so the empty one will do
  rw [hfault, ← @answer_eq_refused_iff embedded? _ failure sources.textAt, ← hsources]
  rcases awaitTemplate_empty sources settings.template with
    ⟨e, shelf, hawait, hanswer⟩ | ⟨t, shelf, hawait, hanswer⟩
  · rw [hawait, hanswer]
    constructor
    · intro h
      rw [Except.error.inj h]
    · intro h
      rw [Template.Shelf.Answer.refused.inj h]
  · rw [hawait, hanswer]
    exact iff_of_false (fun h => by cases h) fun h => by cases h

/-! ### The way to the posters -/

/-- The posters of a run, if it gets as far as to make them. -/
def makingOf (settings : Settings) (embedded? : String → Option String) (web : Web)
    (links : List Link) : Except Failure Making := do
  let sources ← sourcesOf settings embedded? web
  let options ← optionsOf settings
  return makePosters sources (fun _ => none) options links 0 .empty

/-- What is printed of the posters. -/
def reportOf (m : Making) : Report :=
  match m.outcome with
  | .ok _ => .ofOutput (concat (m.deeds.map printed))
  | .error e => (Report.ofError e.message).after (concat (m.deeds.map printed)) ""

section

variable {web : Web} {links : List Link} {sources : Sources} {options : Options}

theorem sourcesOf_of_ok {site : Template.Site} {service : Video.Service}
    (hsite : Template.Site.ofText settings.templateBaseUrl = .ok site)
    (hservice : Video.Service.ofSettings settings = .ok service) :
    sourcesOf settings embedded? web = .ok (.ofServices embedded? site service web) := by
  rw [sourcesOf, hsite, hservice]
  rfl

theorem makingOf_of_sources_error (h : sourcesOf settings embedded? web = .error failure) :
    makingOf settings embedded? web links = .error failure := by
  rw [makingOf, h]
  rfl

theorem makingOf_of_options_error (hsources : sourcesOf settings embedded? web = .ok sources)
    (h : optionsOf settings = .error failure) :
    makingOf settings embedded? web links = .error failure := by
  rw [makingOf, hsources, h]
  rfl

theorem makingOf_of_ok (hsources : sourcesOf settings embedded? web = .ok sources)
    (hoptions : optionsOf settings = .ok options) :
    makingOf settings embedded? web links =
      .ok (makePosters sources (fun _ => none) options links 0 .empty) := by
  rw [makingOf, hsources, hoptions]
  rfl

/-- The posters that are printed are those that are made. -/
theorem printPosters_eq_map (web : Web) (links : List Link) :
    printPosters settings embedded? web links =
      (makingOf settings embedded? web links).map reportOf := by
  cases hsources : sourcesOf settings embedded? web with
  | error e =>
    rw [makingOf_of_sources_error hsources, printPosters, hsources]
    rfl
  | ok sources =>
    cases hoptions : optionsOf settings with
    | error e =>
      rw [makingOf_of_options_error hsources hoptions, printPosters, hsources, hoptions]
      rfl
    | ok options =>
      rw [printPosters_eq hsources hoptions, makingOf_of_ok hsources hoptions]
      cases houtcome : (makePosters sources (fun _ => none) options links 0 .empty).outcome <;>
        simp only [houtcome, reportOf, Except.map]

end

/-- Posters fail before anything is fetched, asked for or placed: either none are made, or the
template is refused at once. -/
inductive FailsAtOnce (failure : Failure) : Except Failure Making → Prop where
  | unmade : FailsAtOnce failure (.error failure)
  | made {m : Making} (hfetched : m.fetched = none) (hasked : m.asked = []) (hdeeds : m.deeds = [])
      (houtcome : m.outcome = .error failure) : FailsAtOnce failure (.ok m)

/-- What fails at once is told, and nothing else is printed. -/
theorem FailsAtOnce.report {making : Except Failure Making} (h : FailsAtOnce failure making) :
    (match making.map reportOf with
      | .ok report => report
      | .error e => .ofError e.message) = Report.ofError failure.message := by
  cases h with
  | unmade => rfl
  | made _ _ hdeeds houtcome =>
    simp only [Except.map, reportOf, houtcome, hdeeds]
    rfl

/-- A template that is refused before it is waited for leaves nothing to fetch or to ask for. -/
theorem failsAtOnce_of_await {sources : Sources} {options : Options}
    (h : (awaitTemplate sources .empty options.template).1 = .error failure) (links : List Link) :
    FailsAtOnce failure (.ok (makePosters sources (fun _ => none) options links 0 .empty)) := by
  rw [makePosters]
  generalize awaitTemplate sources .empty options.template = awaited at h
  obtain ⟨outcome, shelf⟩ := awaited
  obtain rfl : outcome = .error failure := h
  exact .made rfl rfl rfl rfl

namespace IsFirstFault

variable {check : Check}

/-- A check that comes before the first fault has succeeded. -/
theorem exists_ok {α : Type} {earlier : Check} {x : Except Failure α}
    (h : IsFirstFault settings embedded? check failure)
    (hx : ∀ failure', x = .error failure' ↔ Fault settings embedded? earlier failure')
    (hlt : earlier.rank < check.rank) : ∃ a, x = .ok a :=
  exists_ok_of_ne_error fun failure' hfails => h.first earlier hlt failure' ((hx failure').1 hfails)

/-- Behind the checks of the site and of the key there is something to make posters from. -/
theorem exists_sourcesOf (h : IsFirstFault settings embedded? check failure)
    (hkey : settings.apiKey ≠ none) (hlt : Check.key.rank < check.rank) (web : Web) :
    ∃ site service, sourcesOf settings embedded? web =
      .ok (.ofServices embedded? site service web) := by
  obtain ⟨site, hsite⟩ := h.exists_ok (fun _ => ofText_eq_error_iff) (Nat.lt_of_succ_lt hlt)
  obtain ⟨service, hservice⟩ := h.exists_ok (fun _ => ofSettings_eq_error_iff hkey) hlt
  exact ⟨site, service, sourcesOf_of_ok hsite hservice⟩

/-- Behind the checks of the placer and of the click handler there are options. -/
theorem exists_optionsOf (h : IsFirstFault settings embedded? check failure)
    (hlt : Check.clickHandler.rank < check.rank) : ∃ options, optionsOf settings = .ok options := by
  obtain ⟨placer, hplacer⟩ :=
    h.exists_ok (fun _ => chosen_placer_eq_error_iff) (Nat.lt_of_succ_lt hlt)
  obtain ⟨onclick, honclick⟩ := h.exists_ok (fun _ => chosen_clickHandler_eq_error_iff) hlt
  rw [optionsOf, Options.ofSettings, hplacer, honclick]
  exact ⟨_, rfl⟩

/-- No posters are made where there is a fault, and nothing is asked for. -/
theorem failsAtOnce (hkey : settings.apiKey ≠ none)
    (h : IsFirstFault settings embedded? check failure) (web : Web) (links : List Link) :
    FailsAtOnce failure (makingOf settings embedded? web links) := by
  have hfault := h.fault
  cases check with
  | site =>
    have hsources : sourcesOf settings embedded? web = .error failure := by
      rw [sourcesOf, ofText_eq_error_iff.2 hfault]
      rfl
    rw [makingOf_of_sources_error hsources]
    exact .unmade
  | key =>
    obtain ⟨site, hsite⟩ := h.exists_ok (fun _ => ofText_eq_error_iff) (by decide)
    have hsources : sourcesOf settings embedded? web = .error failure := by
      rw [sourcesOf, hsite, (ofSettings_eq_error_iff hkey).2 hfault]
      rfl
    rw [makingOf_of_sources_error hsources]
    exact .unmade
  | placer =>
    obtain ⟨site, service, hsources⟩ := h.exists_sourcesOf hkey (by decide) web
    have hoptions : optionsOf settings = .error failure := by
      rw [optionsOf, Options.ofSettings, chosen_placer_eq_error_iff.2 hfault]
      rfl
    rw [makingOf_of_options_error hsources hoptions]
    exact .unmade
  | clickHandler =>
    obtain ⟨site, service, hsources⟩ := h.exists_sourcesOf hkey (by decide) web
    obtain ⟨placer, hplacer⟩ := h.exists_ok (fun _ => chosen_placer_eq_error_iff) (by decide)
    have hoptions : optionsOf settings = .error failure := by
      rw [optionsOf, Options.ofSettings, hplacer, chosen_clickHandler_eq_error_iff.2 hfault]
      rfl
    rw [makingOf_of_options_error hsources hoptions]
    exact .unmade
  | template =>
    obtain ⟨site, service, hsources⟩ := h.exists_sourcesOf hkey (by decide) web
    obtain ⟨options, hoptions⟩ := h.exists_optionsOf (by decide)
    rw [makingOf_of_ok hsources hoptions]
    -- only now the template is resolved, and it is refused before it is waited for
    refine failsAtOnce_of_await ?_ links
    rw [(optionsOf_eq_ok hoptions).1]
    exact (awaitTemplate_eq_error_iff rfl).2 hfault

end IsFirstFault

end

/-! ### The program -/

/-- **The first fault is told, and nothing was asked for.**  Where the settings and the page of
a run can be loaded and there is a key, be it the empty one: any fault of the settings leads to
one that is met first.  Whatever web there is, the run then lists the links as always, prints no
poster, tells the first fault and fails; and no template was fetched, no metadata asked for and
no poster placed on the way. -/
theorem run_tells_first_fault {raw : List String} {arguments : Arguments}
    (hraw : Command.ofArguments raw = .run arguments) {surroundings : Surroundings}
    {settings : Settings} {page : Page}
    (hsettings : settingsOf arguments surroundings = .ok settings)
    (hpage : pageOf arguments surroundings = .ok page) (hkey : settings.apiKey ≠ none) :
    let embedded? := embeddedOf arguments surroundings page
    let links := (page.links ++ arguments.urls.map Link.ofHref).filter Link.isVideoLink
    let others := arguments.urls.filter fun url => !(Link.ofHref url).isVideoLink
    (∀ check failure, Fault settings embedded? check failure →
      ∃ first failure', IsFirstFault settings embedded? first failure') ∧
    ∀ check failure, IsFirstFault settings embedded? check failure → ∀ web,
      run raw { surroundings with web } = ⟨1, concat (links.map listedRecord),
        concat (others.map rejectedRecord) ++ failureRecord failure.message⟩ ∧
      FailsAtOnce failure (makingOf settings embedded? web links) := by
  intro embedded? links others
  refine ⟨fun check failure hfault => exists_isFirstFault hfault,
    fun check failure hfirst web => ?_⟩
  have hfails := hfirst.failsAtOnce hkey web links
  refine ⟨?_, hfails⟩
  -- the key is there, so the posters are turned to
  have hsome : settings.apiKey.isNone = false :=
    Bool.eq_false_iff.2 fun hnone => hkey (Option.isNone_iff_eq_none.1 hnone)
  have hrun : run raw { surroundings with web } =
      listAndPrint arguments { surroundings with web } settings page := by
    have hsettings' : settingsOf arguments { surroundings with web } = .ok settings := hsettings
    have hpage' : pageOf arguments { surroundings with web } = .ok page := hpage
    rw [run, hraw]
    simp only [runWith, hsettings', hpage']
  have hlist := listAndPrint_eq arguments { surroundings with web } settings page
  have hreport := hfails.report
  rw [← printPosters_eq_map] at hreport
  rw [hrun, hlist, hsome, if_neg Bool.false_ne_true]
  refine (congrArg (Report.after _ _) hreport).trans ?_
  exact congrArg (Report.mk 1 · _) String.append_empty

/-- Neither the placer nor the click handler is known and the template does not compile: the
placer is told. -/
theorem run_tells_first_fault_placer :
    let document := "\x7b\"template_base_url\":\"http://a\",\"placer\":\"nowhere\"," ++
      "\"onclick\":\"nothing\"\x7d"
    let files : FileReader := fun path => if path = "c" then .ok document else .error .notFound
    let web : Web := fun _ => some ⟨200, "\x7b\x7d"⟩
    run ["--api-key", "k", "--template", "\x7b\x7b=\x7d\x7d", "--config", "c", "x",
        "https://youtu.be/a"] ⟨files, files, web⟩ =
      ⟨1, "a\thttps://youtu.be/a\n",
        "Not a YouTube video link: x\nError: Poster placer \"nowhere\" is not valid.\n"⟩ := by
  intro document files web
  let settings : Settings := { Settings.default with
    apiKey := some "k", template := "\x7b\x7b=\x7d\x7d", templateBaseUrl := "http://a"
    placer := "nowhere", onclick := "nothing" }
  let arguments : Arguments := ⟨["x", "https://youtu.be/a"],
    [(.config, "c"), (.template, "\x7b\x7b=\x7d\x7d"), (.apiKey, "k")]⟩
  have hraw : Command.ofArguments ["--api-key", "k", "--template", "\x7b\x7b=\x7d\x7d", "--config",
      "c", "x", "https://youtu.be/a"] = .run arguments := by
    decide +kernel
  have hsettings : settingsOf arguments ⟨files, files, web⟩ = .ok settings := by
    decide +kernel
  have hpage : pageOf arguments ⟨files, files, web⟩ = .ok Page.empty := by
    rfl
  have hfirst : IsFirstFault settings (embeddedOf arguments ⟨files, files, web⟩ Page.empty) .placer
      (.unknownName (.placer "nowhere")) := by
    refine ⟨.placer (by decide) (fun placer => by cases placer <;> decide),
      fun earlier hlt failure h => ?_⟩
    cases h with
    | site hparse =>
      have hok : (Url.parse "http://a").toBool = true := by decide +kernel
      have herror : Url.parse "http://a" = .error _ := hparse
      rw [herror] at hok
      cases hok
    | key hempty =>
      have hsome : settings.apiKey ≠ some "" := by decide
      exact absurd hempty hsome
    | _ => exact absurd hlt (by decide)
  obtain ⟨-, htold⟩ := run_tells_first_fault hraw hsettings hpage (Option.some_ne_none _)
  obtain ⟨hrun, -⟩ := htold .placer _ hfirst web
  exact hrun.trans (by decide +kernel)

end VideoPosters.CommandLine
