import VideoPosters.Proofs.Outcome
import VideoPosters.Proofs.Poster.Metadata

/-!
# What is done with the posters, and in which order

Once the template and the videos are there, the videos are gone through in order.  The poster
of each is placed on the page, if a placer is chosen, and then shown to whoever asked.  A
placement that is refused ends it: the page has been asked for one poster more than was shown,
and nothing has been done with the videos after it.

## Main definitions

* `Deed.placement?`, `Deed.presentation?` — what the page is asked for, and what is shown.
* `shownOnly`, `placedAndShown` — the deeds for one video without a placer, and with one.

## Main results

* `placePosters_append` — as long as no placement is refused, the deeds for the videos so far
  come first and the rest goes on by itself.
* `placePosters_of_refused` — the first placement that is refused ends it.
* `makePosters_deeds` — **everything that is done with the posters, in order.**
-/

namespace VideoPosters

/-! ### Deeds as the page and the asker see them -/

/-- What the page is asked to place, if it is asked. -/
def Deed.placement? : Deed → Option (Link × Poster × Placer)
  | .place link poster placer => some (link, poster, placer)
  | .present .. => none

/-- What is shown to whoever asked for posters, if something is. -/
def Deed.presentation? : Deed → Option (Link × Poster)
  | .place .. => none
  | .present link poster => some (link, poster)

/-- The deeds for a video whose poster is not placed. -/
def shownOnly (poster : LinkedVideo → Poster) (v : LinkedVideo) : Deed :=
  .present v.link (poster v)

/-- The deeds for a video whose poster is placed. -/
def placedAndShown (poster : LinkedVideo → Poster) (placer : Placer) (v : LinkedVideo) :
    List Deed :=
  [.place v.link (poster v) placer, .present v.link (poster v)]

section

variable (poster : LinkedVideo → Poster) (placer : Placer) (videos : List LinkedVideo)

/-- The page is not asked for posters that are shown only. -/
theorem placements_shownOnly :
    (videos.map (shownOnly poster)).filterMap Deed.placement? = [] := by
  rw [List.filterMap_map, List.filterMap_eq_nil_iff]
  intro v _
  rfl

/-- The page is asked for each poster that is placed and shown. -/
theorem placements_placedAndShown :
    (videos.flatMap (placedAndShown poster placer)).filterMap Deed.placement? =
      videos.map fun v => (v.link, poster v, placer) := by
  induction videos with
  | nil => rfl
  | cons v videos ih =>
    rw [List.flatMap_cons, List.filterMap_append, ih]
    rfl

/-- Each poster that is placed and shown is shown once. -/
theorem presentations_placedAndShown :
    (videos.flatMap (placedAndShown poster placer)).filterMap Deed.presentation? =
      videos.map fun v => (v.link, poster v) := by
  induction videos with
  | nil => rfl
  | cons v videos ih =>
    rw [List.flatMap_cons, List.filterMap_append, ih]
    rfl

end

/-! ### Going through the videos -/

section

variable {refusal? : Nat → Option String} {options : Options} {tokens : List Template.Token}
  {count : Nat} {placer : Placer}

/-- Without a placer nothing can be refused: every poster is shown. -/
theorem placePosters_of_no_placer (hplacer : options.placer = none)
    (videos : List LinkedVideo) :
    let poster (v : LinkedVideo) := Poster.make options tokens v.video
    placePosters refusal? options tokens count videos =
      (videos.map (shownOnly poster), .ok (videos.map poster)) := by
  intro poster
  induction videos with
  | nil => rfl
  | cons v videos ih =>
    have hposter : (Poster.make options tokens v.video).placer = none := hplacer
    rw [placePosters]
    simp only [hposter, ih]
    rfl

/-- A poster that is placed is shown, and the next one is turned to. -/
theorem placePosters_cons_of_placed (hplacer : options.placer = some placer)
    (hplaced : refusal? count = none) (v : LinkedVideo) (videos : List LinkedVideo) :
    let poster (v : LinkedVideo) := Poster.make options tokens v.video
    let rest := placePosters refusal? options tokens (count + 1) videos
    placePosters refusal? options tokens count (v :: videos) =
      (placedAndShown poster placer v ++ rest.1, rest.2.map (poster v :: ·)) := by
  have hposter : (Poster.make options tokens v.video).placer = some placer := hplacer
  intro poster rest
  rw [placePosters]
  simp only [hposter, hplaced]
  rfl

/-- A poster that is refused ends it, and is not shown. -/
theorem placePosters_cons_of_refused {reason : String} (hplacer : options.placer = some placer)
    (hrefused : refusal? count = some reason) (v : LinkedVideo) (videos : List LinkedVideo) :
    placePosters refusal? options tokens count (v :: videos) =
      ([.place v.link (Poster.make options tokens v.video) placer],
        .error (.foreign reason)) := by
  have hposter : (Poster.make options tokens v.video).placer = some placer := hplacer
  rw [placePosters]
  simp only [hposter, hrefused]

/-- As long as no placement is refused, the deeds for the videos so far come first and the
rest goes on by itself. -/
theorem placePosters_append (hplacer : options.placer = some placer) (before : List LinkedVideo)
    (hplaced : ∀ i < before.length, refusal? (count + i) = none) (after : List LinkedVideo) :
    let poster (v : LinkedVideo) := Poster.make options tokens v.video
    let rest := placePosters refusal? options tokens (count + before.length) after
    placePosters refusal? options tokens count (before ++ after) =
      (before.flatMap (placedAndShown poster placer) ++ rest.1,
        rest.2.map (before.map poster ++ ·)) := by
  intro poster rest
  induction before generalizing count with
  | nil =>
    have hrest : rest.2.map (([] : List Poster) ++ ·) = rest.2 := by
      cases rest.2 <;> rfl
    exact Prod.ext rfl hrest.symm
  | cons v before ih =>
    have hfirst : refusal? count = none := hplaced 0 (by simp)
    -- the later placements are counted from the next number on
    have hlater : ∀ i < before.length, refusal? (count + 1 + i) = none := by
      intro i hi
      have hnext := hplaced (i + 1) (by simpa using hi)
      rwa [Nat.add_assoc, Nat.add_comm 1 i]
    have hcount : count + 1 + before.length = count + (v :: before).length := by
      rw [List.length_cons]
      omega
    rw [List.cons_append, placePosters_cons_of_placed hplacer hfirst, ih hlater]
    simp only [hcount, except_map_map, List.flatMap_cons, List.append_assoc, List.map_cons,
      List.cons_append]
    rfl

/-- If no placement is refused, all posters are placed and shown. -/
theorem placePosters_of_placed (hplacer : options.placer = some placer)
    (videos : List LinkedVideo) (hplaced : ∀ i < videos.length, refusal? (count + i) = none) :
    let poster (v : LinkedVideo) := Poster.make options tokens v.video
    placePosters refusal? options tokens count videos =
      (videos.flatMap (placedAndShown poster placer), .ok (videos.map poster)) := by
  intro poster
  have hall : placePosters refusal? options tokens count (videos ++ []) = _ :=
    placePosters_append hplacer videos hplaced []
  simpa [placePosters, Except.map] using hall

/-- The first placement that is refused ends it: what came before is done, and nothing that
comes after. -/
theorem placePosters_of_refused {reason : String} (hplacer : options.placer = some placer)
    (before : List LinkedVideo) (hplaced : ∀ i < before.length, refusal? (count + i) = none)
    (hrefused : refusal? (count + before.length) = some reason) (v : LinkedVideo)
    (after : List LinkedVideo) :
    let poster (v : LinkedVideo) := Poster.make options tokens v.video
    placePosters refusal? options tokens count (before ++ v :: after) =
      (before.flatMap (placedAndShown poster placer) ++ [.place v.link (poster v) placer],
        .error (.foreign reason)) := by
  intro poster
  rw [placePosters_append hplacer before hplaced,
    placePosters_cons_of_refused hplacer hrefused]
  rfl

/-- Once the template and the videos are there, posters are placed and nothing else is done. -/
theorem deeds_makePosters {sources : Sources} {links : List Link} {shelf shelf' : Template.Shelf}
    {awaited : AwaitedTemplate} {videos : List LinkedVideo}
    (htemplate : awaitTemplate sources shelf options.template = (.ok awaited, shelf'))
    (htokens : awaited.tokens.outcome = .ok tokens)
    (hvideos : (sources.linkedVideos links).outcome = .ok videos) :
    let m := makePosters sources refusal? options links count shelf
    (m.deeds, m.outcome) = placePosters refusal? options tokens count videos := by
  have hboth : (awaited.tokens.both (sources.linkedVideos links).toDelayed).outcome =
      .ok (tokens, videos) := Delayed.outcome_both_eq_ok_iff.2 ⟨htokens, hvideos⟩
  intro m
  simp only [m, makePosters, htemplate, hboth]

end

/-- **Everything that is done with the posters, in order.**  Once the template and the videos
are there, each video has one poster: the template rendered with the data of that video, under
the identifier of the video that its link leads to.  Without a placer the posters are shown,
in order, and the page is asked for nothing.  With a placer each of them is placed and then
shown before the next is turned to.  If no placement is refused there is one poster for each
video, in order.  The first that is refused ends it with the reason of the page, which has
then been asked for the posters up to this one, all of them but this one having been shown;
nothing is done with the videos that are left. -/
theorem makePosters_deeds {sources : Sources} {refusal? : Nat → Option String}
    {options : Options} {links : List Link} {count : Nat} {shelf shelf' : Template.Shelf}
    {awaited : AwaitedTemplate} {tokens : List Template.Token} {videos : List LinkedVideo}
    (htemplate : awaitTemplate sources shelf options.template = (.ok awaited, shelf'))
    (htokens : awaited.tokens.outcome = .ok tokens)
    (hvideos : (sources.linkedVideos links).outcome = .ok videos) :
    let m := makePosters sources refusal? options links count shelf
    let poster (v : LinkedVideo) := Poster.make options tokens v.video
    (∀ v ∈ videos,
      (poster v).markup = String.ofList (Template.render tokens v.video.templateData) ∧
      (poster v).videoId = v.video.item.id ∧ v.link.videoId? = some (poster v).videoId) ∧
    (options.placer = none →
      m.deeds = videos.map (fun v => .present v.link (poster v)) ∧
      m.deeds.filterMap Deed.placement? = [] ∧ m.outcome = .ok (videos.map poster)) ∧
    ∀ placer, options.placer = some placer →
      ((∀ i < videos.length, refusal? (count + i) = none) →
        m.deeds = videos.flatMap (fun v =>
          [.place v.link (poster v) placer, .present v.link (poster v)]) ∧
        m.outcome = .ok (videos.map poster)) ∧
      ∀ before v after reason, videos = before ++ v :: after →
        (∀ i < before.length, refusal? (count + i) = none) →
        refusal? (count + before.length) = some reason →
          m.deeds = before.flatMap (fun v =>
            [.place v.link (poster v) placer, .present v.link (poster v)]) ++
              [.place v.link (poster v) placer] ∧
          m.deeds.filterMap Deed.placement? =
            (before ++ [v]).map (fun v => (v.link, poster v, placer)) ∧
          m.deeds.filterMap Deed.presentation? = before.map (fun v => (v.link, poster v)) ∧
          m.outcome = .error (.foreign reason) := by
  intro m poster
  have hdeeds : (m.deeds, m.outcome) = placePosters refusal? options tokens count videos :=
    deeds_makePosters htemplate htokens hvideos
  refine ⟨?_, ?_, ?_⟩
  · intro v hv
    obtain ⟨items, -, hitems⟩ := exists_of_map_eq_ok hvideos
    rw [← hitems] at hv
    exact ⟨rfl, rfl, (of_mem_linkVideos hv).1⟩
  · intro hplacer
    rw [placePosters_of_no_placer hplacer] at hdeeds
    obtain ⟨hm, houtcome⟩ := Prod.mk.inj hdeeds
    have hplacements : m.deeds.filterMap Deed.placement? = [] := by
      rw [hm, placements_shownOnly]
    exact ⟨hm, hplacements, houtcome⟩
  · intro placer hplacer
    refine ⟨?_, ?_⟩
    · intro hplaced
      rw [placePosters_of_placed hplacer videos hplaced] at hdeeds
      exact Prod.mk.inj hdeeds
    · intro before v after reason hsplit hplaced hrefused
      -- nothing is done with the videos behind the first one that is refused
      rw [hsplit, placePosters_of_refused hplacer before hplaced hrefused] at hdeeds
      obtain ⟨hm, houtcome⟩ := Prod.mk.inj hdeeds
      have hplacements : m.deeds.filterMap Deed.placement? =
          (before ++ [v]).map fun v => (v.link, poster v, placer) := by
        rw [hm, List.filterMap_append, placements_placedAndShown, List.map_append]
        rfl
      have hpresentations : m.deeds.filterMap Deed.presentation? =
          before.map fun v => (v.link, poster v) := by
        rw [hm, List.filterMap_append, presentations_placedAndShown]
        exact List.append_nil _
      exact ⟨hm, hplacements, hpresentations, houtcome⟩

/-- Three links, and a page that refuses the second poster: it is asked for two, one is shown,
and the third is not turned to. -/
theorem makePosters_deeds_refused :
    let item (id : String) : Video.Item := ⟨id, none, none, []⟩
    let sources : Sources := ⟨fun _ => none, fun _ => .now (.error "404 Not Found"),
      fun _ => .now (.ok [item "a", item "b", item "c"])⟩
    let a := Link.ofHref "https://youtu.be/a"
    let b := Link.ofHref "https://youtu.be/b?t=1"
    let c := Link.ofHref "https://youtu.be/c"
    let tokens : List Template.Token := [.literal ['*'], .interpolate [.key ['i', 'd']]]
    let options : Options := { Options.ofTemplate (.compiled tokens) with
      placer := some .appendToLink }
    let refusal? (n : Nat) := if n = 6 then some "no room" else none
    let poster (id : String) := Poster.make options tokens (Video.ofItem (item id))
    let m := makePosters sources refusal? options [a, b, c] 5 .empty
    ((poster "a").markup, (poster "b").markup) = ("*a", "*b") ∧
    m.deeds.filterMap Deed.placement? =
      [(a, poster "a", .appendToLink), (b, poster "b", .appendToLink)] ∧
    m.deeds.filterMap Deed.presentation? = [(a, poster "a")] ∧
    m.outcome = .error (.foreign "no room") := by
  intro item sources a b c tokens options refusal? poster m
  let video (link : Link) (id : String) : LinkedVideo := ⟨link, Video.ofItem (item id)⟩
  have hvideos : (sources.linkedVideos [a, b, c]).outcome =
      .ok [video a "a", video b "b", video c "c"] := by
    dsimp only [sources, item, video, a, b, c]
    rfl
  have htemplate : awaitTemplate sources .empty options.template =
      (.ok ⟨none, .now (.ok tokens), .empty, .empty⟩, .empty) := rfl
  have hplaced : ∀ i < [video a "a"].length, refusal? (5 + i) = none := by decide
  obtain ⟨-, -, hplacer⟩ := makePosters_deeds htemplate rfl hvideos
  obtain ⟨-, hplacements, hpresentations, houtcome⟩ :=
    (hplacer .appendToLink rfl).2 [video a "a"] (video b "b") [video c "c"] "no room" rfl
      hplaced rfl
  exact ⟨by decide +kernel, hplacements, hpresentations, houtcome⟩

end VideoPosters
