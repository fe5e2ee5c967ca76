import VideoPosters.Player.Click
import VideoPosters.Proofs.Poster.Metadata

/-!
# The elements that posters are found by

A poster is found on the page by the identifier of its element, which is made from the
identifier of the video and from nothing else.  There is one poster for each link, so that
two links to one video give two posters with one identifier: a player that replaces one of
them is asked for in just the words of the other.  Posters of different videos are told
apart.

## Main results

* `outcome_placePosters` — the posters of some videos, if all of them can be placed.
* `outcome_makePosters` — the posters of some links, if none of the steps fails.
* `posterId_eq_iff_videoId_eq` — **posters share the words for their element just if they
  share a video.**
* `posterId_shared` — two links to one video: their posters cannot be told apart.
-/

namespace VideoPosters

/-! ### The words for an element -/

theorem Video.posterIdOf_inj {a b : String} : Video.posterIdOf a = Video.posterIdOf b ↔ a = b :=
  String.append_right_inj _

/-- The selector of the elements that a player can replace in the posters of a video. -/
def playerSelector (videoId selector : String) : String :=
  "#" ++ Video.posterIdOf videoId ++ " " ++ selector

/-- Selectors tell videos apart. -/
theorem playerSelector_inj {a b selector : String} :
    playerSelector a selector = playerSelector b selector ↔ a = b := by
  rw [playerSelector, playerSelector, String.append_left_inj, String.append_left_inj,
    String.append_right_inj, Video.posterIdOf_inj]

/-! ### The videos that are found -/

/-- The videos that are found are those of the links whose videos are reported, in order. -/
theorem map_videoId_linkVideos (links : List Link) (items : List Video.Item) :
    (linkVideos links items).map (fun v => some v.video.item.id) =
      (links.filter (isReported items)).map Link.videoId? := by
  rw [← map_link_linkVideos, List.map_map]
  exact List.map_congr_left fun v hv => (of_mem_linkVideos hv).1.symm

/-- The videos that are found are some of those that the links lead to. -/
theorem videoIds_linkVideos_sublist (links : List Link) (items : List Video.Item) :
    ((linkVideos links items).map fun v => v.video.item.id).Sublist
      (links.filterMap Link.videoId?) := by
  have hfound : (linkVideos links items).map (fun v => v.video.item.id) =
      (links.filter (isReported items)).filterMap Link.videoId? := by
    -- of the links that are kept every one leads to a video, so none is lost
    have hids := congrArg (List.filterMap id) (map_videoId_linkVideos links items)
    simpa [List.filterMap_map, Function.comp_def] using hids
  rw [hfound]
  exact List.filter_sublist.filterMap _

/-- What tells the videos of links apart tells those apart that are found, if no two links
lead to one video. -/
theorem nodup_map_linkVideos {links : List Link} {items : List Video.Item} {β : Type}
    {f : LinkedVideo → β} {g : String → β} (hg : Function.Injective g)
    (hf : ∀ v ∈ linkVideos links items, f v = g v.video.item.id)
    (hdistinct : (links.filterMap Link.videoId?).Nodup) :
    ((linkVideos links items).map f).Nodup := by
  have hids := (videoIds_linkVideos_sublist links items).nodup hdistinct
  have hmap : (linkVideos links items).map f =
      ((linkVideos links items).map fun v => v.video.item.id).map g := by
    rw [List.map_map]
    exact List.map_congr_left hf
  rw [hmap]
  exact hids.map hg

/-- The identifier of a poster's element is made from that of the video. -/
theorem posterId_of_mem_linkVideos {links : List Link} {items : List Video.Item}
    {v : LinkedVideo} (hv : v ∈ linkVideos links items) :
    v.video.posterId = Video.posterIdOf v.video.item.id :=
  congrArg Video.posterId (of_mem_linkVideos hv).2.2

/-! ### The posters that are made -/

section

variable {refusal? : Nat → Option String} {options : Options} {count : Nat}
  {posters : List Poster}

/-- Placing goes on behind the first video as for the others alone, if it goes on at all. -/
theorem outcome_placePosters_cons (template : List Template.Token) (v : LinkedVideo)
    (videos : List LinkedVideo) :
    (∃ e, (placePosters refusal? options template count (v :: videos)).2 = .error e) ∨
      ∃ count', (placePosters refusal? options template count (v :: videos)).2 =
        (placePosters refusal? options template count' videos).2.map
          (Poster.make options template v.video :: ·) := by
  -- there is no placer, or the page refuses, or it places and the next one is turned to
  rw [placePosters]
  split
  · exact .inr ⟨count, rfl⟩
  · split
    · exact .inl ⟨_, rfl⟩
    · exact .inr ⟨count + 1, rfl⟩

/-- If all posters can be placed, there is one for each video, in order. -/
theorem outcome_placePosters {template : List Template.Token} {videos : List LinkedVideo}
    (h : (placePosters refusal? options template count videos).2 = .ok posters) :
    posters = videos.map fun v => Poster.make options template v.video := by
  induction videos generalizing count posters with
  | nil => exact (Except.ok.inj h).symm
  | cons v videos ih =>
    rcases outcome_placePosters_cons template v videos with ⟨e, herror⟩ | ⟨count', hcons⟩
    · rw [herror] at h
      cases h
    · rw [hcons] at h
      cases hrest : (placePosters refusal? options template count' videos).2 with
      | error e =>
        rw [hrest] at h
        cases h
      | ok rest =>
        rw [hrest] at h
        rw [← Except.ok.inj h, ih hrest, List.map_cons]

/-- If none of the steps fails, there is one poster for each link whose video is reported. -/
theorem outcome_makePosters {sources : Sources} {links : List Link} {shelf : Template.Shelf}
    (h : (makePosters sources refusal? options links count shelf).outcome = .ok posters) :
    ∃ items template, (sources.videos (videoIds links)).outcome = .ok items ∧
      posters = (linkVideos links items).map fun v => Poster.make options template v.video := by
  rw [makePosters] at h
  split at h
  · cases h
  · next awaited _ _ =>
    cases hboth : (awaited.tokens.both (sources.linkedVideos links).toDelayed).outcome with
    | error e =>
      simp only [hboth] at h
      cases h
    | ok both =>
      obtain ⟨template, videos⟩ := both
      simp only [hboth] at h
      have hvideos : (sources.linkedVideos links).outcome = .ok videos :=
        (Delayed.outcome_both_eq_ok_iff.1 hboth).2
      -- both parts succeeded, so the metadata did
      rw [Sources.linkedVideos, Inquiry.map_outcome] at hvideos
      cases hitems : (sources.videos (videoIds links)).outcome with
      | error e =>
        rw [Sources.ask, hitems] at hvideos
        cases hvideos
      | ok items =>
        rw [Sources.ask, hitems] at hvideos
        rw [← Except.ok.inj hvideos] at h
        exact ⟨items, template, rfl, outcome_placePosters h⟩

end

/-- **Posters share the words for their element just if they share a video.**  If posters
are made for some links, there is one for each link whose video is reported, in order.  Two
of them have one identifier just if they are of one video, and are then the same in all.
The player that replaces a poster is asked for in the words for the posters of that video,
and for no others; if no two links lead to one video, all identifiers and all those words
are different. -/
theorem posterId_eq_iff_videoId_eq {sources : Sources} {refusal? : Nat → Option String}
    {options : Options} {links : List Link} {count : Nat} {shelf : Template.Shelf}
    {posters : List Poster}
    (h : (makePosters sources refusal? options links count shelf).outcome = .ok posters) :
    (∃ items, (sources.videos (videoIds links)).outcome = .ok items ∧
      posters.map (fun p => some p.videoId) =
        (links.filter fun link => items.any fun item => link.videoId? = some item.id).map
          Link.videoId?) ∧
    (∀ p ∈ posters, ∀ q ∈ posters,
      (p.posterId = q.posterId ↔ p.videoId = q.videoId) ∧ (p.videoId = q.videoId → p = q) ∧
      ∀ (options' : Options) (run : Player.Run), ∃ request,
        (Player.Click.replace options' p run).1 = .waiting run.calls.length request ∧
        (request.target = "#" ++ q.posterId ++ " " ++ options'.posterSelector ↔
          p.videoId = q.videoId)) ∧
    ((links.filterMap Link.videoId?).Nodup →
      (posters.map Poster.posterId).Nodup ∧ ∀ options' : Options,
        (posters.map fun p => (p.playerRequest options').target).Nodup) := by
  obtain ⟨items, template, hitems, rfl⟩ := outcome_makePosters h
  refine ⟨⟨items, hitems, ?_⟩, fun p hp q hq => ?_, fun hdistinct => ?_⟩
  · rw [List.map_map]
    exact map_videoId_linkVideos links items
  · obtain ⟨v, hv, rfl⟩ := List.mem_map.1 hp
    obtain ⟨w, hw, rfl⟩ := List.mem_map.1 hq
    obtain ⟨-, hvitem, hvideo⟩ := of_mem_linkVideos hv
    obtain ⟨-, hwitem, hwvideo⟩ := of_mem_linkVideos hw
    have hvid := posterId_of_mem_linkVideos hv
    have hwid := posterId_of_mem_linkVideos hw
    refine ⟨?_, fun hid => ?_, fun options' run => ⟨_, rfl, ?_⟩⟩
    · show v.video.posterId = w.video.posterId ↔ v.video.item.id = w.video.item.id
      rw [hvid, hwid, Video.posterIdOf_inj]
    · -- one identifier has one last item, from which all else is derived
      have hid : v.video.item.id = w.video.item.id := hid
      rw [hid, hwitem] at hvitem
      rw [hvideo, hwvideo, Option.some.inj hvitem]
    · show "#" ++ v.video.posterId ++ " " ++ _ = "#" ++ w.video.posterId ++ " " ++ _ ↔ _
      rw [hvid, hwid]
      exact playerSelector_inj
  · constructor
    · rw [List.map_map]
      exact nodup_map_linkVideos (fun a b => Video.posterIdOf_inj.1)
        (fun v hv => posterId_of_mem_linkVideos hv) hdistinct
    · intro options'
      rw [List.map_map]
      refine nodup_map_linkVideos (g := (playerSelector · options'.posterSelector))
        (fun a b => playerSelector_inj.1) (fun v hv => ?_) hdistinct
      show "#" ++ v.video.posterId ++ " " ++ options'.posterSelector = _
      rw [posterId_of_mem_linkVideos hv, playerSelector]

/-- Two links to two videos and a link to none: the posters are told apart. -/
theorem posterId_eq_iff_videoId_eq_distinct :
    let item (id : String) : Video.Item := ⟨id, none, none, []⟩
    let sources : Sources := ⟨fun _ => none, fun _ => .now (.error "404 Not Found"),
      fun _ => .now (.ok [item "b", item "a"])⟩
    let links := ["https://youtu.be/a", "https://example.com/", "https://youtu.be/b"].map
      Link.ofHref
    let posters := ["a", "b"].map fun id => (⟨Video.ofItem (item id), "", none, none⟩ : Poster)
    (makePosters sources (fun _ => none) (.ofTemplate (.compiled [])) links 0
      Template.Shelf.empty).outcome = .ok posters ∧
    (posters.map Poster.posterId).Nodup ∧
    ∀ p ∈ posters, ∀ q ∈ posters, (p.posterId = q.posterId ↔ p.videoId = q.videoId) := by
  intro item sources links posters
  have hmake : (makePosters sources (fun _ => none) (.ofTemplate (.compiled [])) links 0
      Template.Shelf.empty).outcome = .ok posters := by rfl
  obtain ⟨-, hpairs, hdistinct⟩ := posterId_eq_iff_videoId_eq hmake
  exact ⟨hmake, (hdistinct (by decide +kernel)).1, fun p hp q hq => (hpairs p hp q hq).1⟩

/-- Two links to one video: both posters have one identifier, and the players that replace
them are asked for in the same words. -/
theorem posterId_shared :
    let item : Video.Item := ⟨"a", none, none, []⟩
    let sources : Sources := ⟨fun _ => none, fun _ => .now (.error "404 Not Found"),
      fun _ => .now (.ok [item])⟩
    let links := ["https://youtu.be/a", "https://youtu.be/a?t=1"].map Link.ofHref
    ∃ posters, (makePosters sources (fun _ => none) (.ofTemplate (.compiled [])) links 0
        Template.Shelf.empty).outcome = .ok posters ∧
      ∃ p q, posters[0]? = some p ∧ posters[1]? = some q ∧ p.posterId = q.posterId ∧
        ∀ options : Options,
          (p.playerRequest options).target = (q.playerRequest options).target := by
  intro item sources links
  exact ⟨[⟨Video.ofItem item, "", none, none⟩, ⟨Video.ofItem item, "", none, none⟩], rfl,
    _, _, rfl, rfl, rfl, fun _ => rfl⟩

end VideoPosters
