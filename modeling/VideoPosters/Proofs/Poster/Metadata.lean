import Mathlib.Data.List.Nodup
import VideoPosters.Poster.Making

/-!
# The metadata of linked videos

The metadata of all videos that some links lead to is asked for at once, each video being
named once.  What comes back may be in any order, may lack videos and may hold more than
was asked for: items find their links by the identifiers of their videos alone, and of
several items with one identifier the last one counts.

## Main definitions

* `IsFirsts` — whether a list holds what another holds, each once, as it first occurs.

## Main results

* `isFirsts_videoIds` — each video is named once, in the order in which they first occur.
* `lastItem?_eq_some_iff`, `lastItem?_eq_none_iff` — which item is found.
* `linkVideos_eq_of_perm` — neither the order of the items nor items not asked for matter.
* `Sources.linkedVideos_matched` — **what is asked, and what comes of it.**
-/

namespace VideoPosters

/-! ### Identifiers, each once -/

/-- Whether a list holds what another holds, each once and in the order in which it first
occurs there. -/
def IsFirsts (ids all : List String) : Prop :=
  (ids.Pairwise fun a b => all.idxOf a < all.idxOf b) ∧ ∀ id, id ∈ ids ↔ id ∈ all

theorem isFirsts_nil : IsFirsts [] [] := ⟨List.Pairwise.nil, fun _ => Iff.rfl⟩

theorem IsFirsts.nodup {ids all : List String} (h : IsFirsts ids all) : ids.Nodup := by
  refine h.1.imp fun {a b} hlt heq => ?_
  rw [heq] at hlt
  exact Nat.lt_irrefl _ hlt

/-- A list of first occurrences stays one when another occurrence is added. -/
theorem IsFirsts.addId {ids all : List String} (h : IsFirsts ids all) (id : String) :
    IsFirsts (addId ids id) (all ++ [id]) := by
  obtain ⟨hpairwise, hmem⟩ := h
  -- what occurred before occurs first where it did
  have hold : ∀ a ∈ ids, (all ++ [id]).idxOf a = all.idxOf a := fun a ha =>
    List.idxOf_append_of_mem ((hmem a).1 ha)
  have hpairwise' : ids.Pairwise fun a b => (all ++ [id]).idxOf a < (all ++ [id]).idxOf b := by
    refine hpairwise.imp_of_mem fun {a b} ha hb hlt => ?_
    rw [hold a ha, hold b hb]
    exact hlt
  rw [VideoPosters.addId]
  split
  · next hcontains =>
    -- it occurred before, so nothing is added
    have hid : id ∈ ids := List.contains_iff_mem.1 hcontains
    refine ⟨hpairwise', fun a => ?_⟩
    rw [hmem, List.mem_append, List.mem_singleton]
    refine ⟨Or.inl, fun ha => ?_⟩
    rcases ha with ha | rfl
    · exact ha
    · exact (hmem a).1 hid
  · next hcontains =>
    -- it is new, so its first occurrence is the last place of all
    have hid : id ∉ all := fun hall => hcontains (List.contains_iff_mem.2 ((hmem id).2 hall))
    have hlast : (all ++ [id]).idxOf id = all.length := by
      simp [List.idxOf_append_of_notMem hid]
    refine ⟨List.pairwise_append.2 ⟨hpairwise', List.pairwise_singleton _ _, ?_⟩, fun a => ?_⟩
    · intro a ha b hb
      rw [List.mem_singleton.1 hb, hlast, hold a ha]
      exact List.idxOf_lt_length_of_mem ((hmem a).1 ha)
    · rw [List.mem_append, List.mem_append, hmem]

theorem IsFirsts.foldl_addId {ids all : List String} (h : IsFirsts ids all)
    (more : List String) : IsFirsts (more.foldl VideoPosters.addId ids) (all ++ more) := by
  induction more generalizing ids all with
  | nil => rwa [List.append_nil]
  | cons id more ih =>
    have hmore := ih (h.addId id)
    rwa [List.append_assoc] at hmore

/-- Each video that some links lead to is named once, in the order in which they first
occur. -/
theorem isFirsts_videoIds (links : List Link) :
    IsFirsts (videoIds links) (links.filterMap Link.videoId?) :=
  isFirsts_nil.foldl_addId _

theorem mem_videoIds_iff {links : List Link} {id : String} :
    id ∈ videoIds links ↔ ∃ link ∈ links, link.videoId? = some id :=
  ((isFirsts_videoIds links).2 id).trans List.mem_filterMap

/-! ### The last item with an identifier -/

/-- The item that is found has the identifier, and none after it has. -/
theorem lastItem?_eq_some_iff {id : String} {items : List Video.Item} {item : Video.Item} :
    lastItem? id items = some item ↔ item.id = id ∧ ∃ before after,
      items = before ++ item :: after ∧ ∀ later ∈ after, later.id ≠ id := by
  rw [lastItem?, List.find?_eq_some_iff_append]
  simp only [decide_eq_true_eq, Bool.not_eq_true', decide_eq_false_iff_not]
  refine and_congr_right fun _ => ⟨?_, ?_⟩
  · -- the search runs from the end, so what it passes comes after
    rintro ⟨after, before, hitems, hafter⟩
    refine ⟨before.reverse, after.reverse, ?_, fun later hlater => ?_⟩
    · rw [← List.reverse_reverse items, hitems]
      simp
    · exact hafter later (List.mem_reverse.1 hlater)
  · rintro ⟨before, after, rfl, hafter⟩
    refine ⟨after.reverse, before.reverse, by simp, fun later hlater => ?_⟩
    exact hafter later (List.mem_reverse.1 hlater)

theorem lastItem?_eq_none_iff {id : String} {items : List Video.Item} :
    lastItem? id items = none ↔ ∀ item ∈ items, item.id ≠ id := by
  simp [lastItem?]

/-- Where one item at most has the identifier, it is found wherever it stands. -/
theorem lastItem?_eq_some_iff_mem {id : String} {items : List Video.Item}
    (hunique : ∀ x ∈ items, ∀ y ∈ items, x.id = id → y.id = id → x = y) {item : Video.Item} :
    lastItem? id items = some item ↔ item ∈ items ∧ item.id = id := by
  constructor
  · intro h
    obtain ⟨hid, before, after, rfl, -⟩ := lastItem?_eq_some_iff.1 h
    exact ⟨by simp, hid⟩
  · rintro ⟨hitem, hid⟩
    cases h : lastItem? id items with
    -- another item with this identifier would be the same
    | none => exact absurd hid (lastItem?_eq_none_iff.1 h item hitem)
    | some found =>
      obtain ⟨hfound, before, after, rfl, -⟩ := lastItem?_eq_some_iff.1 h
      rw [hunique found (by simp) item hitem hfound hid]

/-! ### Links with their items -/

/-- A link finds the last item with the identifier of its video. -/
theorem linkVideo?_eq_some_iff {items : List Video.Item} {link : Link} {v : LinkedVideo} :
    linkVideo? items link = some v ↔ ∃ item, link.videoId? = some item.id ∧
      lastItem? item.id items = some item ∧ v = ⟨link, Video.ofItem item⟩ := by
  simp only [linkVideo?, bind, pure, Option.bind_eq_some_iff, Option.some.injEq]
  constructor
  · rintro ⟨id, hlink, item, hitem, rfl⟩
    obtain rfl := (lastItem?_eq_some_iff.1 hitem).1
    exact ⟨item, hlink, hitem, rfl⟩
  · rintro ⟨item, hlink, hitem, rfl⟩
    exact ⟨item.id, hlink, item, hitem, rfl⟩

/-- Whether some item is about the video that a link leads to. -/
def isReported (items : List Video.Item) (link : Link) : Bool :=
  items.any fun item => link.videoId? = some item.id

theorem isReported_iff {items : List Video.Item} {link : Link} :
    isReported items link = true ↔ ∃ item ∈ items, link.videoId? = some item.id := by
  simp [isReported]

/-- The links that find an item are those whose videos are reported. -/
theorem isSome_linkVideo? (items : List Video.Item) (link : Link) :
    (linkVideo? items link).isSome = isReported items link := by
  rw [Bool.eq_iff_iff, isReported_iff, Option.isSome_iff_exists]
  constructor
  · rintro ⟨v, hv⟩
    obtain ⟨item, hlink, hitem, -⟩ := linkVideo?_eq_some_iff.1 hv
    obtain ⟨-, before, after, rfl, -⟩ := lastItem?_eq_some_iff.1 hitem
    exact ⟨item, by simp, hlink⟩
  · rintro ⟨item, hitem, hlink⟩
    cases h : lastItem? item.id items with
    | none => exact absurd rfl (lastItem?_eq_none_iff.1 h item hitem)
    | some found =>
      -- the item that is found may be another one with this identifier
      have hid := (lastItem?_eq_some_iff.1 h).1
      rw [← hid] at h hlink
      exact ⟨_, linkVideo?_eq_some_iff.2 ⟨found, hlink, h, rfl⟩⟩

/-- Just the links whose videos are reported are kept, in order and as often as they
occur. -/
theorem map_link_linkVideos (links : List Link) (items : List Video.Item) :
    (linkVideos links items).map (·.link) = links.filter (isReported items) := by
  induction links with
  | nil => rfl
  | cons link links ih =>
    rw [linkVideos, List.filterMap_cons, List.filter_cons, ← isSome_linkVideo?]
    cases h : linkVideo? items link with
    | none => exact ih
    | some v =>
      obtain ⟨item, -, -, rfl⟩ := linkVideo?_eq_some_iff.1 h
      exact congrArg (link :: ·) ih

/-- A link is kept with the last item with the identifier of its video, and with what is
derived from that item. -/
theorem of_mem_linkVideos {links : List Link} {items : List Video.Item} {v : LinkedVideo}
    (hv : v ∈ linkVideos links items) : v.link.videoId? = some v.video.item.id ∧
      lastItem? v.video.item.id items = some v.video.item ∧
      v.video = Video.ofItem v.video.item := by
  obtain ⟨link, -, hlink⟩ := List.mem_filterMap.1 hv
  obtain ⟨item, hid, hitem, rfl⟩ := linkVideo?_eq_some_iff.1 hlink
  exact ⟨hid, hitem, rfl⟩

/-- Neither the order of the items nor items that were not asked for matter, as long as no
two items asked for have one identifier. -/
theorem linkVideos_eq_of_perm {links : List Link} {items others more : List Video.Item}
    (hdistinct : (items.map Video.Item.id).Nodup) (hperm : others.Perm (items ++ more))
    (hmore : ∀ item ∈ more, item.id ∉ videoIds links) :
    linkVideos links others = linkVideos links items := by
  refine List.filterMap_congr fun link hlink => ?_
  rw [linkVideo?, linkVideo?]
  cases hid : link.videoId? with
  | none => rfl
  | some id =>
    have hasked : id ∈ videoIds links := mem_videoIds_iff.2 ⟨link, hlink, hid⟩
    -- the items with this identifier are the same on both sides
    have hmem : ∀ item : Video.Item, item.id = id → (item ∈ others ↔ item ∈ items) := by
      intro item hitem
      rw [hperm.mem_iff, List.mem_append, or_iff_left]
      intro hin
      exact hmore item hin (hitem ▸ hasked)
    have hunique : ∀ x ∈ items, ∀ y ∈ items, x.id = id → y.id = id → x = y :=
      fun x hx y hy hxid hyid =>
        List.inj_on_of_nodup_map hdistinct hx hy (hxid.trans hyid.symm)
    have hunique' : ∀ x ∈ others, ∀ y ∈ others, x.id = id → y.id = id → x = y :=
      fun x hx y hy hxid hyid =>
        hunique x ((hmem x hxid).1 hx) y ((hmem y hyid).1 hy) hxid hyid
    have hsame : lastItem? id others = lastItem? id items := by
      refine Option.ext fun item => ?_
      rw [lastItem?_eq_some_iff_mem hunique', lastItem?_eq_some_iff_mem hunique]
      exact and_congr_left fun hitem => hmem item hitem
    show (lastItem? id others).bind _ = (lastItem? id items).bind _
    rw [hsame]

namespace Sources

/-- **What is asked about the videos of some links, and what comes of it.**  The metadata is
asked for once, of each video once, in the order in which the videos first occur.  If that
fails, so does all.  Otherwise just the links whose videos are among the items that came
back are kept, in order and as often as they occur, each with the last item that carries
the identifier of its video; of the items neither the order nor those that were not asked
for matter, unless two of the others have one identifier. -/
theorem linkedVideos_matched (sources : Sources) (links : List Link) :
    let ids := links.filterMap Link.videoId?
    let inquiry := sources.linkedVideos links
    inquiry.asked = [videoIds links] ∧
    (videoIds links).Nodup ∧ (∀ id, id ∈ videoIds links ↔ id ∈ ids) ∧
    ((videoIds links).Pairwise fun a b => ids.idxOf a < ids.idxOf b) ∧
    (∀ failure, (sources.videos (videoIds links)).outcome = .error failure →
      inquiry.outcome = .error failure) ∧
    (∀ items, (sources.videos (videoIds links)).outcome = .ok items →
      (∃ videos, inquiry.outcome = .ok videos ∧
        videos.map (·.link) = links.filter (fun link =>
          items.any fun item => link.videoId? = some item.id) ∧
        ∀ v ∈ videos, ∃ before after, items = before ++ v.video.item :: after ∧
          v.link.videoId? = some v.video.item.id ∧
          (∀ later ∈ after, later.id ≠ v.video.item.id) ∧
          v.video.playingTime = v.video.item.duration.display ∧
          v.video.posterId = "autotube-poster-" ++ v.video.item.id) ∧
      ((items.map Video.Item.id).Nodup → ∀ (sources' : Sources) (others more : List Video.Item),
        (sources'.videos (videoIds links)).outcome = .ok others → others.Perm (items ++ more) →
        (∀ item ∈ more, item.id ∉ videoIds links) →
          (sources'.linkedVideos links).outcome = inquiry.outcome)) := by
  intro ids inquiry
  have hfirsts : IsFirsts (videoIds links) ids := isFirsts_videoIds links
  have houtcome : ∀ s : Sources, (s.linkedVideos links).outcome =
      (s.videos (videoIds links)).outcome.map (linkVideos links) := fun s => rfl
  refine ⟨rfl, hfirsts.nodup, hfirsts.2, hfirsts.1, fun failure h => ?_, fun items h => ⟨?_, ?_⟩⟩
  · rw [houtcome, h]
    rfl
  · refine ⟨linkVideos links items, ?_, map_link_linkVideos links items, fun v hv => ?_⟩
    · rw [houtcome, h]
      rfl
    · obtain ⟨hid, hitem, hvideo⟩ := of_mem_linkVideos hv
      obtain ⟨-, before, after, hitems, hafter⟩ := lastItem?_eq_some_iff.1 hitem
      exact ⟨before, after, hitems, hid, hafter, congrArg Video.playingTime hvideo,
        congrArg Video.posterId hvideo⟩
  · intro hdistinct sources' others more hothers hperm hmore
    rw [houtcome, houtcome, h, hothers]
    exact congrArg Except.ok (linkVideos_eq_of_perm hdistinct hperm hmore)

/-- Two links to one video, a link to none and a link to a video that is not reported; what
comes back is in another order, holds a video that was not asked for and one video twice. -/
theorem linkedVideos_matched_duplicates :
    let item (id duration : String) : Video.Item := ⟨id, none, some ⟨duration, []⟩, []⟩
    let sources (reply : Except Failure (List Video.Item)) : Sources :=
      ⟨fun _ => none, fun _ => .now (.error "404 Not Found"), fun _ => .now reply⟩
    let links := ["https://youtu.be/a", "https://example.com/", "https://youtu.be/b?t=1",
      "https://www.youtube.com/watch?v=a", "https://youtu.be/c"].map Link.ofHref
    let reply := [item "b" "PT1S", item "x" "PT9S", item "a" "PT3S", item "b" "PT2S"]
    ((sources (.error (.foreign "down"))).linkedVideos links).outcome =
      .error (.foreign "down") ∧
    (∃ videos, ((sources (.ok reply)).linkedVideos links).outcome = .ok videos ∧
      videos.map (·.link.href) =
        ["https://youtu.be/a", "https://youtu.be/b?t=1", "https://www.youtube.com/watch?v=a"] ∧
      ∃ v ∈ videos, v.link.href = "https://youtu.be/b?t=1" ∧ v.video.item.id = "b" ∧
        ∃ before after, reply = before ++ v.video.item :: after ∧
          ∀ later ∈ after, later.id ≠ "b") ∧
    ((sources (.ok (reply.drop 1))).linkedVideos links).outcome =
      ((sources (.ok [item "a" "PT3S", item "b" "PT2S"])).linkedVideos links).outcome := by
  intro item sources links reply
  obtain ⟨-, -, -, -, hfails, -⟩ := linkedVideos_matched (sources (.error (.foreign "down"))) links
  obtain ⟨-, -, -, -, -, hmatched⟩ := linkedVideos_matched (sources (.ok reply)) links
  obtain ⟨-, -, -, -, -, hdistinct⟩ :=
    linkedVideos_matched (sources (.ok [item "a" "PT3S", item "b" "PT2S"])) links
  refine ⟨hfails _ rfl, ?_, ?_⟩
  · obtain ⟨videos, hvideos, hlinks, heach⟩ := (hmatched reply rfl).1
    have hhrefs : videos.map (·.link.href) =
        ["https://youtu.be/a", "https://youtu.be/b?t=1", "https://www.youtube.com/watch?v=a"] := by
      have hmap := congrArg (List.map Link.href) hlinks
      rw [List.map_map] at hmap
      exact hmap.trans (by decide +kernel)
    have hmem : "https://youtu.be/b?t=1" ∈ videos.map (·.link.href) := by
      rw [hhrefs]
      decide
    obtain ⟨v, hv, hhref⟩ := List.mem_map.1 hmem
    obtain ⟨before, after, hreply, hid, hafter, -, -⟩ := heach v hv
    have hb : v.link.videoId? = some "b" := by
      rw [Link.videoId?, hhref]
      decide +kernel
    have hvideo : v.video.item.id = "b" := (Option.some.inj (hb.symm.trans hid)).symm
    rw [hvideo] at hafter
    exact ⟨videos, hvideos, hhrefs, v, hv, hhref, hvideo, before, after, hreply, hafter⟩
  · refine (hdistinct _ rfl).2 (by decide) _ (reply.drop 1) [item "x" "PT9S"] rfl ?_ ?_
    · have hswap : ([item "x" "PT9S"] ++ [item "a" "PT3S", item "b" "PT2S"]).Perm
          ([item "a" "PT3S", item "b" "PT2S"] ++ [item "x" "PT9S"]) := List.perm_append_comm
      exact hswap
    · decide +kernel

end Sources

end VideoPosters
