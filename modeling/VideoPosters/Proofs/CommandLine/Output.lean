import VideoPosters.CommandLine.Program
import VideoPosters.Proofs.Page.Scanning
import VideoPosters.Proofs.Poster.Metadata
import VideoPosters.Proofs.Poster.Stages

/-!
# What the program prints

The program prints nothing before its settings and its page are loaded.  Then it prints the
listing of the video links, and behind it either the posters of all of them that are reported
or, where a stage fails, nothing more.

## Main definitions

* `listedRecord`, `rejectedRecord`, `posterRecord`, `failureRecord` — the records of the program.
* `HasParts` — whether all that posters are made from is at hand.
* `Report.ofStage` — the report of a stage that prints posters, or fails.

## Main results

* `concat_listedLine`, `concat_rejectedLine` — the listing, and what is said about other links.
* `printPosters_cases`, `exists_stage` — what is printed once the links are listed.
* `run_prints` — **what the program prints, and its exit code.**
-/

namespace VideoPosters.CommandLine

open Template.Shelf (answer)

/-! ### Records -/

/-- The record of a link to a video. -/
def listedRecord (link : Link) : String := link.videoId?.getD "" ++ "\t" ++ link.href ++ "\n"

/-- The record of an argument that is no link to a video. -/
def rejectedRecord (url : String) : String := "Not a YouTube video link: " ++ url ++ "\n"

/-- The record of a placed poster: a comment, and the markup. -/
def posterRecord (placer : Placer) (tokens : List Template.Token) (v : LinkedVideo) : String :=
  "<!-- " ++ placer.name ++ " " ++ v.link.href ++ " \"" ++ v.video.item.title ++ "\" -->" ++ "\n" ++
    String.ofList (Template.render tokens v.video.templateData) ++ "\n"

/-- The record of a failure. -/
def failureRecord (message : String) : String := "Error: " ++ message ++ "\n"

/-! ### The listing -/

theorem concat_cons (line : String) (lines : List String) :
    concat (line :: lines) = line ++ concat lines := rfl

/-- Of lines that are empty unless something holds, only those are left where it does. -/
theorem concat_map_filter {α : Type} {line record : α → String} {p : α → Bool}
    (hp : ∀ a, p a = true → line a = record a) (hnp : ∀ a, p a = false → line a = "")
    (as : List α) : concat (as.map line) = concat ((as.filter p).map record) := by
  induction as with
  | nil => rfl
  | cons a as ih =>
    cases h : p a with
    | true =>
      rw [List.filter_cons_of_pos h, List.map_cons, List.map_cons, concat_cons, concat_cons, hp a h,
        ih]
    | false =>
      have hneg : ¬ p a = true := fun htrue => by
        rw [h] at htrue
        cases htrue
      rw [List.filter_cons_of_neg hneg, List.map_cons, concat_cons, hnp a h, ih,
        String.empty_append]

theorem concat_listedLine (links : List Link) :
    concat (links.map listedLine) =
      concat ((links.filter Link.isVideoLink).map listedRecord) := by
  refine concat_map_filter (fun link h => ?_) (fun link h => ?_) links
  · obtain ⟨id, hid⟩ := Option.isSome_iff_exists.1 h
    rw [listedLine, listedRecord, hid]
    rfl
  · rw [listedLine, Option.not_isSome_iff_eq_none.1 (Bool.eq_false_iff.1 h)]

theorem concat_rejectedLine (links : List Link) :
    concat (links.map rejectedLine) =
      concat ((links.filter (!·.isVideoLink)).map fun link => rejectedRecord link.href) := by
  refine concat_map_filter (fun link h => ?_) (fun link h => ?_) links
  · have hid : link.videoId? = none := by
      simpa [Link.isVideoLink] using h
    rw [rejectedLine, hid]
    rfl
  · have hsome : link.isVideoLink = true := by simpa using h
    obtain ⟨id, hid⟩ := Option.isSome_iff_exists.1 hsome
    rw [rejectedLine, hid]

section

variable (page : Page) (urls : List String)

/-- Of a page no links but those to videos are looked at. -/
theorem filter_videoLinks :
    (page.videoLinks ++ urls.map Link.ofHref).filter Link.isVideoLink =
      (page.links ++ urls.map Link.ofHref).filter Link.isVideoLink := by
  rw [List.filter_append, List.filter_append, Page.videoLinks, List.filter_filter]
  simp only [Bool.and_self]

/-- What is no link to a video is an argument. -/
theorem map_rejectedRecord :
    ((page.videoLinks ++ urls.map Link.ofHref).filter (!·.isVideoLink)).map
        (fun link => rejectedRecord link.href) =
      (urls.filter fun url => !(Link.ofHref url).isVideoLink).map rejectedRecord := by
  have hpage : page.videoLinks.filter (!·.isVideoLink) = [] := by
    rw [List.filter_eq_nil_iff]
    intro link hlink hnot
    rw [(List.mem_filter.1 hlink).2] at hnot
    cases hnot
  rw [List.filter_append, hpage, List.nil_append, List.filter_map, List.map_map]
  rfl

end

/-! ### The stage of the posters -/

/-- Links that lead to no video change nothing about the videos that are asked for. -/
theorem videoIds_filter (links : List Link) :
    videoIds (links.filter Link.isVideoLink) = videoIds links := by
  rw [videoIds, videoIds, List.filterMap_filter]
  refine congrArg (List.foldl addId []) (List.filterMap_congr fun link _ => ?_)
  cases h : link.videoId? <;> simp [Link.isVideoLink, h]

/-- Links that lead to no video find no metadata. -/
theorem linkVideos_filter (links : List Link) (items : List Video.Item) :
    linkVideos (links.filter Link.isVideoLink) items = linkVideos links items := by
  rw [linkVideos, linkVideos, List.filterMap_filter]
  refine List.filterMap_congr fun link _ => ?_
  cases h : link.videoId? <;> simp [Link.isVideoLink, linkVideo?, h]

/-- Links that lead to no video change nothing about the posters that are printed. -/
theorem printPosters_filter (settings : Settings) (embedded? : String → Option String) (web : Web)
    (links : List Link) :
    printPosters settings embedded? web (links.filter Link.isVideoLink) =
      printPosters settings embedded? web links := by
  have hvideos : ∀ sources : Sources,
      sources.linkedVideos (links.filter Link.isVideoLink) = sources.linkedVideos links := by
    intro sources
    rw [Sources.linkedVideos, Sources.linkedVideos, videoIds_filter,
      funext (linkVideos_filter links)]
  simp only [printPosters, makePosters, hvideos]

/-- Whether all that the posters for some links are made from is at hand: where they go, the
template, and the metadata of the videos. -/
structure HasParts (settings : Settings) (embedded? : String → Option String) (web : Web)
    (links : List Link) (placer : Placer) (tokens : List Template.Token)
    (items : List Video.Item) : Prop where
  placer : ∃ options, Options.ofSettings settings = .ok options ∧
    options.placer.getD .appendToParent = placer
  template : ∃ site, Template.Site.ofText settings.templateBaseUrl = .ok site ∧
    answer embedded? (fun path => (Sources.templateOf site web path).outcome)
      settings.template = .delivers (.ok tokens)
  videos : ∃ service, Video.Service.ofSettings settings = .ok service ∧
    (service.fetch web (videoIds links)).outcome = .ok items

section

variable {settings : Settings} {embedded? : String → Option String} {web : Web}
  {links : List Link} {placer placer' : Placer} {tokens tokens' : List Template.Token}
  {items items' : List Video.Item}

/-- The parts are what they are. -/
theorem HasParts.unique (h : HasParts settings embedded? web links placer tokens items)
    (h' : HasParts settings embedded? web links placer' tokens' items') :
    placer = placer' ∧ tokens = tokens' ∧ items = items' := by
  obtain ⟨⟨options, hoptions, rfl⟩, ⟨site, hsite, htokens⟩, ⟨service, hservice, hitems⟩⟩ := h
  obtain ⟨⟨_, hoptions', rfl⟩, ⟨_, hsite', htokens'⟩, ⟨_, hservice', hitems'⟩⟩ := h'
  cases Except.ok.inj (hoptions.symm.trans hoptions')
  cases Except.ok.inj (hsite.symm.trans hsite')
  cases Except.ok.inj (hservice.symm.trans hservice')
  exact ⟨rfl, Except.ok.inj (Template.Shelf.Answer.delivers.inj (htokens.symm.trans htokens')),
    Except.ok.inj (hitems.symm.trans hitems')⟩

/-- Without a key there is no metadata. -/
theorem HasParts.apiKey_ne_none
    (h : HasParts settings embedded? web links placer tokens items) : settings.apiKey ≠ none := by
  intro hnone
  obtain ⟨service, hservice, -⟩ := h.videos
  rw [Video.Service.ofSettings, Settings.requireApiKey, hnone] at hservice
  cases hservice

/-- The options of a call place all posters, by the template that the settings name. -/
theorem optionsOf_eq_ok {options : Options} (h : optionsOf settings = .ok options) :
    options.template = .specifier settings.template ∧ ∃ placer,
      options.placer = some placer ∧ ∃ chosen, Options.ofSettings settings = .ok chosen ∧
        chosen.placer.getD .appendToParent = placer := by
  obtain ⟨chosen, hchosen, h⟩ := exists_of_bind_eq_ok h
  cases Except.ok.inj h
  refine ⟨?_, _, rfl, chosen, hchosen, rfl⟩
  obtain ⟨_, -, hchosen⟩ := exists_of_bind_eq_ok hchosen
  obtain ⟨_, -, hchosen⟩ := exists_of_bind_eq_ok hchosen
  cases Except.ok.inj hchosen
  rfl

/-- What a placed poster is printed as. -/
theorem concat_printed (options : Options) (placer : Placer) (tokens : List Template.Token)
    (videos : List LinkedVideo) :
    concat ((videos.flatMap fun v =>
      [Deed.place v.link (Poster.make options tokens v.video) placer,
        .present v.link (Poster.make options tokens v.video)]).map printed) =
      concat (videos.map (posterRecord placer tokens)) := by
  induction videos with
  | nil => rfl
  | cons v videos ih =>
    rw [List.map_cons (f := posterRecord placer tokens), concat_cons, ← ih]
    show posterRecord placer tokens v ++ ("" ++ _) = _
    rw [String.empty_append]
    rfl

/-- Without an address for the templates or for the metadata there are no parts. -/
theorem sourcesOf_eq_ok (h : HasParts settings embedded? web links placer tokens items) :
    ∃ sources, sourcesOf settings embedded? web = .ok sources := by
  obtain ⟨site, hsite, -⟩ := h.template
  obtain ⟨service, hservice, -⟩ := h.videos
  rw [sourcesOf, hsite, hservice]
  exact ⟨_, rfl⟩

/-- Without options there are no parts. -/
theorem exists_optionsOf (h : HasParts settings embedded? web links placer tokens items) :
    ∃ options, optionsOf settings = .ok options := by
  obtain ⟨options, hchosen, -⟩ := h.placer
  rw [optionsOf, hchosen]
  exact ⟨_, rfl⟩

/-- What is printed of the posters that are made. -/
theorem printPosters_eq {sources : Sources} {options : Options}
    (hsources : sourcesOf settings embedded? web = .ok sources)
    (hoptions : optionsOf settings = .ok options) (links : List Link) :
    printPosters settings embedded? web links =
      let m := makePosters sources (fun _ => none) options links 0 .empty
      match m.outcome with
      | .ok _ => .ok (.ofOutput (concat (m.deeds.map printed)))
      | .error e => .ok ((Report.ofError e.message).after (concat (m.deeds.map printed)) "") := by
  rw [printPosters, hsources, hoptions]
  rfl

/-- What the stage of the posters comes to. -/
theorem printPosters_cases :
    (∃ placer tokens items, HasParts settings embedded? web links placer tokens items ∧
      printPosters settings embedded? web links =
        .ok (.ofOutput (concat ((linkVideos links items).map (posterRecord placer tokens))))) ∨
    (∀ placer tokens items, ¬ HasParts settings embedded? web links placer tokens items) ∧
      ∃ e, printPosters settings embedded? web links = .error e ∨
        printPosters settings embedded? web links = .ok (.ofError e.message) := by
  cases hsources : sourcesOf settings embedded? web with
  | error e =>
    refine .inr ⟨fun placer tokens items h => ?_, e, .inl (by rw [printPosters, hsources]; rfl)⟩
    obtain ⟨sources, hok⟩ := sourcesOf_eq_ok h
    rw [hsources] at hok
    cases hok
  | ok sources =>
    cases hoptions : optionsOf settings with
    | error e =>
      refine .inr ⟨fun placer tokens items h => ?_, e, .inl ?_⟩
      · obtain ⟨options, hok⟩ := exists_optionsOf h
        rw [hoptions] at hok
        cases hok
      · rw [printPosters, hsources, hoptions]
        rfl
    | ok options =>
      -- what is left to fail is the template and the metadata
      have hprint := printPosters_eq hsources hoptions links
      obtain ⟨hspec, placer, hplacer, hchosen⟩ := optionsOf_eq_ok hoptions
      obtain ⟨site, hsite, hrest⟩ := exists_of_bind_eq_ok hsources
      obtain ⟨service, hservice, hrest⟩ := exists_of_bind_eq_ok hrest
      cases Except.ok.inj hrest
      rcases @makePosters_empty (.ofServices embedded? site service web) (fun _ => none) options
        links 0 _ hspec with
        ⟨tokens, items, htokens, hitems, hmade⟩ | ⟨hnone, hdeeds, e, houtcome⟩
      · rw [placePosters_of_placer hplacer] at hmade
        obtain ⟨hdeeds, houtcome⟩ := Prod.mk.inj hmade
        have hparts : HasParts settings embedded? web links placer tokens items :=
          ⟨hchosen, ⟨site, hsite, htokens⟩, service, hservice, hitems⟩
        refine .inl ⟨placer, tokens, items, hparts, hprint.trans ?_⟩
        simp only [houtcome, hdeeds]
        rw [concat_printed]
      · refine .inr ⟨fun placer tokens items h => ?_, e, .inr (hprint.trans ?_)⟩
        · obtain ⟨-, ⟨site', hsite', htokens⟩, service', hservice', hitems⟩ := h
          cases Except.ok.inj (hsite.symm.trans hsite')
          cases Except.ok.inj (hservice.symm.trans hservice')
          exact hnone tokens items htokens hitems
        · simp only [houtcome, hdeeds]
          rfl

end

/-! ### The program -/

/-- The report of a stage that prints some posters, or fails. -/
def Report.ofStage (posters : String) (failure? : Option String) : Report :=
  ⟨if failure?.isNone then 0 else 1, posters, concat (failure?.toList.map failureRecord)⟩

theorem Report.ofError_eq_ofStage (message : String) :
    Report.ofError message = .ofStage "" (some message) :=
  congrArg (Report.mk 1 "") (String.append_empty (s := failureRecord message)).symm

section

variable {raw : List String} {arguments : Arguments}

/-- What is printed once the links are listed. -/
theorem exists_stage (settings : Settings) (embedded? : String → Option String) (web : Web)
    (links : List Link) : ∃ posters failure?,
      (if settings.apiKey.isNone then .ofOutput ""
        else
          match printPosters settings embedded? web links with
          | .ok report => report
          | .error e => .ofError e.message) = Report.ofStage posters failure? ∧
      (settings.apiKey = none → posters = "" ∧ failure? = none) ∧
      (settings.apiKey ≠ none →
        (∀ placer tokens items, ¬ HasParts settings embedded? web links placer tokens items) →
          posters = "" ∧ failure? ≠ none) ∧
      ∀ placer tokens items, HasParts settings embedded? web links placer tokens items →
        failure? = none ∧
        posters = concat ((linkVideos links items).map (posterRecord placer tokens)) := by
  cases hkey : settings.apiKey with
  | none =>
    -- without a key the stage is left out, and no parts can be at hand
    refine ⟨"", none, rfl, fun _ => ⟨rfl, rfl⟩, fun hsome => absurd rfl hsome,
      fun placer tokens items h => absurd hkey h.apiKey_ne_none⟩
  | some key =>
    have hnot : ∀ {P : Prop}, some key = none → P := fun hnone => (by cases hnone)
    rcases @printPosters_cases settings embedded? web links with
      ⟨placer, tokens, items, hparts, hprint⟩ | ⟨hnone, e, hprint⟩
    · refine ⟨concat ((linkVideos links items).map (posterRecord placer tokens)), none, ?_, hnot,
        fun _ hnone => absurd hparts (hnone placer tokens items),
        fun placer' tokens' items' h => ?_⟩
      · rw [hprint]
        rfl
      · -- other parts that are at hand are the same ones
        obtain ⟨rfl, rfl, rfl⟩ := hparts.unique h
        exact ⟨rfl, rfl⟩
    · refine ⟨"", some e.message, ?_, hnot, fun _ _ => ⟨rfl, Option.some_ne_none _⟩,
        fun placer tokens items h => absurd h (hnone placer tokens items)⟩
      -- whether it fails before the posters are made or while they are, the report is the same
      rw [← Report.ofError_eq_ofStage]
      rcases hprint with hprint | hprint <;> rw [hprint] <;> rfl

/-- The links are listed before the stage of the posters. -/
theorem listAndPrint_eq (arguments : Arguments) (surroundings : Surroundings)
    (settings : Settings) (page : Page) :
    let links := (page.links ++ arguments.urls.map Link.ofHref).filter Link.isVideoLink
    let others := arguments.urls.filter fun url => !(Link.ofHref url).isVideoLink
    let embedded? := embeddedOf arguments surroundings page
    listAndPrint arguments surroundings settings page =
      Report.after (concat (links.map listedRecord)) (concat (others.map rejectedRecord))
        (if settings.apiKey.isNone then .ofOutput ""
        else
          match printPosters settings embedded? surroundings.web links with
          | .ok report => report
          | .error e => .ofError e.message) := by
  intro links others embedded?
  -- the program drops the other links of the page at once, and those of the arguments when it
  -- prints
  have hlinks : links =
      (page.videoLinks ++ arguments.urls.map Link.ofHref).filter Link.isVideoLink :=
    (filter_videoLinks page arguments.urls).symm
  have hothers : others.map rejectedRecord =
      ((page.videoLinks ++ arguments.urls.map Link.ofHref).filter (!·.isVideoLink)).map
        fun link => rejectedRecord link.href :=
    (map_rejectedRecord page arguments.urls).symm
  rw [hlinks, hothers, printPosters_filter, ← concat_listedLine, ← concat_rejectedLine]
  rfl

theorem runWith_of_settings_error {surroundings : Surroundings} {e : Failure}
    (h : settingsOf arguments surroundings = .error e) :
    (runWith arguments surroundings).output = "" ∧
      (runWith arguments surroundings).exitCode ≠ 0 := by
  rw [runWith, h]
  exact ⟨rfl, Nat.one_ne_zero⟩

/-- Settings that cannot be loaded are noticed before the page is. -/
theorem runWith_of_page_error {surroundings : Surroundings} {e : FileError}
    (h : pageOf arguments surroundings = .error e) :
    (runWith arguments surroundings).output = "" ∧
      (runWith arguments surroundings).exitCode ≠ 0 := by
  cases hsettings : settingsOf arguments surroundings with
  | error e => exact runWith_of_settings_error hsettings
  | ok settings =>
    rw [runWith, hsettings, h]
    exact ⟨rfl, Nat.one_ne_zero⟩

/-- Without a document there are no links. -/
theorem links_of_no_document {surroundings : Surroundings} {page : Page}
    (hdocument : arguments.value? .document = none)
    (hpage : pageOf arguments surroundings = .ok page) : page.links = [] := by
  rw [pageOf, hdocument] at hpage
  rw [← Except.ok.inj hpage]
  rfl

/-- The links of a document are those of its elements, in the order in which these were made. -/
theorem listsInOrder_of_document {surroundings : Surroundings} {page : Page} {path : String}
    (hdocument : arguments.value? .document = some path)
    (hpage : pageOf arguments surroundings = .ok page) :
    ∃ text, surroundings.files path = .ok text ∧
      ListsInOrder (fun i => ((Html.read text).element? i).bind Page.linkOf?) page.links := by
  rw [pageOf, hdocument] at hpage
  obtain ⟨text, htext, hpage⟩ := exists_of_bind_eq_ok hpage
  rw [← Except.ok.inj hpage]
  exact ⟨text, htext, Page.listsInOrder_links (Html.read text)⟩

/-- **What the program prints, and its exit code**, with arguments that it understands.  Unless
its settings and its page can be loaded it prints nothing and fails.  Otherwise it prints one
record of each video link, those of the page before those of the arguments and in the order in
which their elements were made, and tells of each argument that is no video link.  With a key and
with all that posters are made from, it goes on with one record of each listed link whose video is
reported, in order and as often as it is listed; if anything is missing, no poster is printed at
all.  The exit code tells whether a stage failed. -/
theorem run_prints (hraw : Command.ofArguments raw = .run arguments)
    (surroundings : Surroundings) :
    let report := run raw surroundings
    (∀ e, settingsOf arguments surroundings = .error e →
      report.output = "" ∧ report.exitCode ≠ 0) ∧
    (∀ e, pageOf arguments surroundings = .error e →
      report.output = "" ∧ report.exitCode ≠ 0) ∧
    ∀ settings page, settingsOf arguments surroundings = .ok settings →
      pageOf arguments surroundings = .ok page →
      let links := (page.links ++ arguments.urls.map Link.ofHref).filter Link.isVideoLink
      let others := arguments.urls.filter fun url => !(Link.ofHref url).isVideoLink
      let atHand := HasParts settings (embeddedOf arguments surroundings page)
        surroundings.web links
      (arguments.value? .document = none → page.links = []) ∧
      (∀ path, arguments.value? .document = some path → ∃ text,
        surroundings.files path = .ok text ∧
        ListsInOrder (fun i => ((Html.read text).element? i).bind Page.linkOf?) page.links) ∧
      ∃ posters failure?,
        report.output = concat (links.map listedRecord) ++ posters ∧
        report.errors = concat (others.map rejectedRecord) ++
          concat (failure?.toList.map failureRecord) ∧
        (report.exitCode = 0 ↔ failure? = none) ∧
        (settings.apiKey = none → posters = "" ∧ failure? = none) ∧
        (settings.apiKey ≠ none → (∀ placer tokens items, ¬ atHand placer tokens items) →
          posters = "" ∧ failure? ≠ none) ∧
        ∀ placer tokens items, atHand placer tokens items → failure? = none ∧
          ∃ videos : List LinkedVideo, posters = concat (videos.map (posterRecord placer tokens)) ∧
            videos.map (·.link) = links.filter (isReported items) ∧
            ∀ v ∈ videos, v.link.videoId? = some v.video.item.id ∧
              lastItem? v.video.item.id items = some v.video.item ∧
              v.video = Video.ofItem v.video.item := by
  intro report
  have hrun : report = runWith arguments surroundings := by
    show run raw surroundings = _
    rw [run, hraw]
  refine ⟨fun e he => ?_, fun e he => ?_, fun settings page hsettings hpage => ?_⟩
  · rw [hrun]
    exact runWith_of_settings_error he
  · rw [hrun]
    exact runWith_of_page_error he
  intro links others atHand
  -- from here on everything is loaded, and only the stage of the posters can fail
  obtain ⟨posters, failure?, hstage, hkey, hnone, hparts⟩ := exists_stage settings
    (embeddedOf arguments surroundings page) surroundings.web links
  have hlist : report = (Report.ofStage posters failure?).after
      (concat (links.map listedRecord)) (concat (others.map rejectedRecord)) := by
    rw [hrun, runWith, hsettings, hpage, ← hstage]
    exact listAndPrint_eq arguments surroundings settings page
  refine ⟨fun hdocument => links_of_no_document hdocument hpage,
    fun path hdocument => listsInOrder_of_document hdocument hpage, posters, failure?, ?_, ?_, ?_,
    hkey, hnone, fun placer tokens items h => ?_⟩
  · rw [hlist]
    rfl
  · rw [hlist]
    rfl
  · rw [hlist]
    cases failure? <;> simp [Report.after, Report.ofStage]
  · obtain ⟨hfailure, rfl⟩ := hparts placer tokens items h
    exact ⟨hfailure, _, rfl, map_link_linkVideos links items, fun v hv => of_mem_linkVideos hv⟩

/-- A page with a link to a video, a template and another link; of the two videos that are
listed the one of the arguments is reported.  A page that is not there ends it all. -/
theorem run_prints_page :
    let page := "<a href=https://youtu.be/b></a><script id=t type=text/html>P</script><a href=y>"
    let settings := "\x7b\"api_url\":\"http://a\",\"template\":\"t\"," ++
      "\"template_base_url\":\"http://a\"\x7d"
    let files : FileReader := fun path =>
      if path = "c" then .ok settings else if path = "d" then .ok page else .error .notFound
    let web : Web := fun _ => some ⟨200, "\x7b\"items\":[\x7b\"id\":\"a\"\x7d]\x7d"⟩
    let report (document : String) := run ["--api-key", "k", "--config", "c", "x",
      "--document", document, "https://youtu.be/a"] ⟨files, files, web⟩
    (report "q").output = "" ∧ (report "q").exitCode ≠ 0 ∧ (report "d").exitCode = 0 ∧
    (report "d").errors = "Not a YouTube video link: x\n" ∧ ∃ videos : List LinkedVideo,
      (report "d").output = "b\thttps://youtu.be/b\na\thttps://youtu.be/a\n" ++
        concat (videos.map (posterRecord .appendToParent [.literal ['P']])) ∧
      videos.map (·.link.href) = ["https://youtu.be/a"] := by
  intro page settings files web report
  let arguments (document : String) : Arguments :=
    ⟨["x", "https://youtu.be/a"], [(.document, document), (.config, "c"), (.apiKey, "k")]⟩
  have hmissing : Command.ofArguments ["--api-key", "k", "--config", "c", "x", "--document", "q",
      "https://youtu.be/a"] = .run (arguments "q") := by
    decide +kernel
  have hpresent : Command.ofArguments ["--api-key", "k", "--config", "c", "x", "--document", "d",
      "https://youtu.be/a"] = .run (arguments "d") := by
    decide +kernel
  -- the page that is not there
  obtain ⟨-, hfails, -⟩ := run_prints hmissing ⟨files, files, web⟩
  obtain ⟨hempty, hcode⟩ := hfails .notFound (by rfl)
  -- the page that is there, and what is read from it and from the web
  have hsettings : settingsOf (arguments "d") ⟨files, files, web⟩ =
      .ok { Settings.default with
        apiKey := some "k", apiUrl := "http://a", template := "t",
        templateBaseUrl := "http://a" } := by
    decide +kernel
  have hpage : pageOf (arguments "d") ⟨files, files, web⟩ = .ok (Page.parse page) := by
    rfl
  have htemplate : (Page.parse page).template? "t" = some "P" := by
    decide +kernel
  have hlinks : (Page.parse page).links = [⟨"https://youtu.be/b", none⟩, ⟨"y", none⟩] := by
    decide +kernel
  have hlisted : ((Page.parse page).links ++ (arguments "d").urls.map Link.ofHref).filter
      Link.isVideoLink = [⟨"https://youtu.be/b", none⟩, ⟨"https://youtu.be/a", none⟩] := by
    rw [hlinks]
    decide +kernel
  have hreply : ((Video.Service.fetch ⟨"http://a", "k", Settings.default.part⟩ web (videoIds
      [⟨"https://youtu.be/b", none⟩, ⟨"https://youtu.be/a", none⟩])).outcome.map
        (List.map Video.Item.id)) = .ok ["a"] := by
    decide +kernel
  obtain ⟨items, hitems, hids⟩ := exists_of_map_eq_ok hreply
  have hreported (link : Link) :
      isReported items link = ["a"].any fun id => link.videoId? = some id := by
    rw [← hids, List.any_map]
    rfl
  have htokens (fetch : String → Except String String) :
      answer (Page.parse page).template? fetch "t" = .delivers (.ok [.literal ['P']]) := by
    have hcompiled : Template.Shelf.compiled "t" "P" = .ok [.literal ['P']] := by
      cbv
    rw [Template.Shelf.answer_of_some (by decide +kernel) htemplate, hcompiled]
    rfl
  -- so all parts are at hand
  obtain ⟨-, -, hprints⟩ := run_prints hpresent ⟨files, files, web⟩
  obtain ⟨-, -, posters, failure?, houtput, herrors, hexit, -, -, hparts⟩ :=
    hprints _ _ hsettings hpage
  rw [hlisted] at houtput hparts
  have hsite : (Template.Site.ofText "http://a").map (fun _ => ()) = .ok () := by
    decide +kernel
  obtain ⟨site, hsite, -⟩ := exists_of_map_eq_ok hsite
  obtain ⟨hfailure, videos, hposters, hlinked, -⟩ := hparts .appendToParent _ items
    ⟨⟨_, rfl, rfl⟩, ⟨site, hsite, htokens _⟩, _, rfl, hitems⟩
  refine ⟨hempty, hcode, hexit.2 hfailure, ?_, videos, ?_, ?_⟩
  · rw [hfailure] at herrors
    exact herrors.trans (by decide +kernel)
  · rw [hposters] at houtput
    exact houtput
  · have hhrefs := congrArg (List.map Link.href) hlinked
    rw [List.map_map, funext hreported] at hhrefs
    exact hhrefs.trans (by decide +kernel)

/-- **The links of a page need not be listed in tree order.**  The second link of a page does not
belong in its table, so it is put in front of it; it is listed second all the same. -/
theorem run_lists_not_in_tree_order :
    let page := "<table><td><a href=https://youtu.be/x></a></td>" ++
      "<a href=https://youtu.be/y></a></table>"
    let files : FileReader := fun path => if path = "d" then .ok page else .error .notFound
    let report := run ["--document", "d"] ⟨files, files, Web.unreachable⟩
    report.output = "x\thttps://youtu.be/x\ny\thttps://youtu.be/y\n" ∧
    ∃ links, Html.IsListing (Html.read page).trees Page.linkOf? links ∧
      ∀ rest, report.output ≠
        concat ((links.filter Link.isVideoLink).map listedRecord) ++ rest := by
  intro page files report
  have hfound : (Html.nodesOfAll (Html.read page).trees).filterMap Page.linkOf? =
      [⟨"https://youtu.be/y", none⟩, ⟨"https://youtu.be/x", none⟩] := by
    decide +kernel
  have hlinks : (Page.parse page).links =
      [⟨"https://youtu.be/x", none⟩, ⟨"https://youtu.be/y", none⟩] := by
    decide +kernel
  have houtput : report.output = "x\thttps://youtu.be/x\ny\thttps://youtu.be/y\n" := by
    have hraw : Command.ofArguments ["--document", "d"] = .run ⟨[], [(.document, "d")]⟩ := by
      decide +kernel
    have hsettings : settingsOf ⟨[], [(.document, "d")]⟩ ⟨files, files, Web.unreachable⟩ =
        .ok Settings.default := by
      rfl
    have hpage : pageOf ⟨[], [(.document, "d")]⟩ ⟨files, files, Web.unreachable⟩ =
        .ok (Page.parse page) := by
      rfl
    have hrun : report = listAndPrint ⟨[], [(.document, "d")]⟩ ⟨files, files, Web.unreachable⟩
        Settings.default (Page.parse page) := by
      show run ["--document", "d"] _ = _
      rw [run, hraw]
      simp only [runWith, hsettings, hpage]
    have hlisted : report.output =
        concat (((Page.parse page).links.filter Link.isVideoLink).map listedRecord) := by
      have hkey : Settings.default.apiKey.isNone = true := rfl
      rw [hrun, listAndPrint_eq, hkey, if_pos rfl, List.map_nil, List.append_nil]
      exact String.append_empty
    rw [hlisted, hlinks]
    decide +kernel
  have hrecords : concat (([⟨"https://youtu.be/y", none⟩, ⟨"https://youtu.be/x", none⟩].filter
      Link.isVideoLink).map listedRecord) = "y\thttps://youtu.be/y\nx\thttps://youtu.be/x\n" := by
    decide +kernel
  refine ⟨houtput, _, hfound ▸ Html.isListing_filterMap _ Page.linkOf?, fun rest hsame => ?_⟩
  -- the two listings differ in their first characters
  rw [houtput, hrecords] at hsame
  have hchars := congrArg String.toList hsame
  rw [String.toList_append] at hchars
  exact absurd (List.cons.inj hchars).1 (by decide)

end

end VideoPosters.CommandLine
