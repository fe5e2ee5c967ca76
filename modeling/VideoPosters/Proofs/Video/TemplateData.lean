import VideoPosters.Proofs.Video.RoundTrip
import VideoPosters.Template.Basic

/-!
# What templates show of a video

Templates see a video through its item, which was read from a value and is written again.
On the way defaults take the place of what is missing, and fields of preview images are lost;
yet of nearly all paths the same is shown as of the value itself, since what is missing, null
or empty is shown as nothing.

## Main definitions

* `Segment.named` — the step to the field of a name.
* `Reshaped` — the paths whose text may be another one: the two that are derived, those that
  end at a record which is written anew, and those into what is not kept of a preview image.
* `HasPlainThumbnails` — whether all preview images of a video are given as objects.

## Main results

* `Item.insertedAt_eq` — an item decides what is shown of the objects that it fits.
* `insertedAt_templateData` — **templates show of a video what they show of the value it was
  read from, but for its playing time and the identifier of its poster.**
-/

namespace VideoPosters

namespace Template

/-! ### What is shown of the fields of an object -/

/-- The step to the field of a name. -/
def Segment.named (name : String) : Segment := .key name.toList

theorem Segment.key_eq_named (name : List Char) :
    Segment.key name = named (String.ofList name) := by
  rw [named, String.toList_ofList]

variable {v d : Json} {path : List Segment}

/-- Of a value that is shown as nothing and has no members nothing is shown. -/
theorem insertedAt_eq_nil (hv : inserted v = [])
    (hstep : ∀ segment : Segment, segment.step? v = none) (path : List Segment) :
    insertedAt v path = [] := by
  cases path with
  | nil => exact hv
  | cons segment rest => rw [insertedAt, lookup?_cons, hstep, Option.bind_none]

theorem insertedAt_null (path : List Segment) : insertedAt .null path = [] := by
  refine insertedAt_eq_nil rfl (fun segment => ?_) path
  cases segment with
  | key name => rfl
  | index n => rfl

theorem insertedAt_emptyText (path : List Segment) : insertedAt (.text "") path = [] := by
  refine insertedAt_eq_nil rfl (fun segment => ?_) path
  cases segment with
  | key name => rfl
  | index n => rfl

theorem insertedAt_cons (v : Json) (segment : Segment) (path : List Segment) :
    insertedAt v (segment :: path) = insertedAt ((segment.step? v).getD .null) path := by
  rw [insertedAt, lookup?_cons]
  cases segment.step? v with
  | none => exact (insertedAt_null path).symm
  | some found => rfl

theorem insertedAt_emptyObject (segment : Segment) (path : List Segment) :
    insertedAt (.object []) (segment :: path) = [] := by
  cases segment with
  | key name => rfl
  | index n => rfl

/-- An object has no places. -/
theorem insertedAt_index (fields : Entries Json) (n : Nat) (path : List Segment) :
    insertedAt (.object fields) (.index n :: path) = [] := rfl

theorem insertedAt_named (fields : Entries Json) (name : String) (path : List Segment) :
    insertedAt (.object fields) (.named name :: path) =
      insertedAt ((fields.get? name).getD .null) path := by
  rw [insertedAt_cons, Segment.named, Segment.step?, String.ofList_toList, Json.get?]

/-- What is missing is shown like a default that shows nothing. -/
theorem insertedAt_getD (hd : insertedAt d path = []) (o : Option Json) :
    insertedAt (o.getD .null) path = insertedAt (o.getD d) path := by
  cases o with
  | none => rw [Option.getD_none, Option.getD_none, hd, insertedAt_null]
  | some v => rfl

theorem lookup?_named (fields : Entries Json) (name : String) (path : List Segment) :
    lookup? (.object fields) (.named name :: path) =
      (fields.get? name).bind (lookup? · path) := by
  rw [lookup?_cons, Segment.named, Segment.step?, String.ofList_toList, Json.get?]

end Template

namespace Video

open Json (Node Reader FitsOptional)
open Template (Segment insertedAt lookup? lookup?_named insertedAt_cons insertedAt_named
  insertedAt_index insertedAt_null insertedAt_emptyText insertedAt_emptyObject insertedAt_getD)
open Template.Segment (named)

/-- The paths whose text may be another one in the template data of a video. -/
inductive Reshaped : List Segment → Prop where
  | playingTime (rest : List Segment) : Reshaped (named "_playingTime" :: rest)
  | posterId (rest : List Segment) : Reshaped (named "_posterId" :: rest)
  | snippet : Reshaped [named "snippet"]
  | details : Reshaped [named "contentDetails"]
  | thumbnails : Reshaped [named "snippet", named "thumbnails"]
  | thumbnail (name : String) : Reshaped [named "snippet", named "thumbnails", named name]
  | within (name : String) {segment : Segment} (rest : List Segment)
      (h : segment ∉ [named "url", named "width", named "height"]) :
      Reshaped (named "snippet" :: named "thumbnails" :: named name :: segment :: rest)

/-- Whether all preview images of a video are given as objects. -/
def HasPlainThumbnails (v : Json) : Prop :=
  ∀ name t, lookup? v [named "snippet", named "thumbnails", named name] = some t →
    ∃ fields, t = .object fields

/-! ### Preview images -/

variable {fields fields' : Entries Json} {segment : Segment} {rest : List Segment}

theorem Thumbnail.insertedAt_eq {t : Thumbnail} (h : t.Fits fields) (h' : t.Fits fields')
    (hsegment : segment ∈ [named "url", named "width", named "height"]) :
    insertedAt (.object fields) (segment :: rest) =
      insertedAt (.object fields') (segment :: rest) := by
  simp only [List.mem_cons, List.not_mem_nil, or_false] at hsegment
  rcases hsegment with rfl | rfl | rfl
  · rw [insertedAt_named, insertedAt_named, h.url, h'.url]
  · rw [insertedAt_named, insertedAt_named, h.width, h'.width]
  · rw [insertedAt_named, insertedAt_named, h.height, h'.height]

/-- Preview images decide what is shown of the objects that they fit. -/
theorem insertedAt_thumbnails_eq {thumbnails : Entries Thumbnail}
    (h : FitThumbnails thumbnails (.object fields))
    (h' : FitThumbnails thumbnails (.object fields'))
    (hplain : ∀ name v, fields.get? name = some v → ∃ values, v = .object values)
    (hplain' : ∀ name v, fields'.get? name = some v → ∃ values, v = .object values)
    (hrest : ¬ Reshaped (named "snippet" :: named "thumbnails" :: rest)) :
    insertedAt (.object fields) rest = insertedAt (.object fields') rest := by
  obtain ⟨_, heq, h⟩ := h
  obtain ⟨_, heq', h'⟩ := h'
  cases heq
  cases heq'
  cases rest with
  | nil => exact absurd .thumbnails hrest
  | cons segment rest =>
    cases segment with
    | index n => rw [insertedAt_index, insertedAt_index]
    | key name =>
      rw [Segment.key_eq_named] at hrest ⊢
      generalize String.ofList name = name at hrest ⊢
      rw [insertedAt_named, insertedAt_named]
      -- both objects hold the same names, and under each an object that the image fits
      have hname := h name
      have hname' := h' name
      have hplain := hplain name
      have hplain' := hplain' name
      generalize thumbnails.get? name = t? at hname hname'
      generalize fields.get? name = v? at hname hplain ⊢
      generalize fields'.get? name = v?' at hname' hplain' ⊢
      cases hname with
      | none =>
        cases hname'
        rfl
      | some hfits =>
        cases hname' with
        | some hfits' =>
          obtain ⟨values, rfl⟩ := hplain _ rfl
          obtain ⟨values', rfl⟩ := hplain' _ rfl
          cases hfits with
          | object hfits =>
            cases hfits' with
            | object hfits' =>
              cases rest with
              | nil => exact absurd (.thumbnail name) hrest
              | cons segment rest =>
                refine Thumbnail.insertedAt_eq hfits hfits' ?_
                -- any other field of an image is lost, and paths to it are reshaped
                by_contra hsegment
                exact hrest (.within name rest hsegment)

/-! ### Snippets and technical details -/

/-- What is shown of a text that is missing is what is shown of an empty one. -/
theorem insertedAt_text_eq {name text : String}
    (h : (fields.get? name).getD (.text "") = .text text)
    (h' : (fields'.get? name).getD (.text "") = .text text) (rest : List Segment) :
    insertedAt (.object fields) (named name :: rest) =
      insertedAt (.object fields') (named name :: rest) := by
  rw [insertedAt_named, insertedAt_named, insertedAt_getD (insertedAt_emptyText rest),
    insertedAt_getD (insertedAt_emptyText rest), h, h']

/-- What is shown of a field that is kept. -/
theorem insertedAt_extra_eq {names : List String} {extra extra' : Entries Json} {name : String}
    (h : IsRest names extra fields) (h' : IsRest names extra' fields') (hname : name ∉ names)
    (heq : extra.get? name = extra'.get? name) (rest : List Segment) :
    insertedAt (.object fields) (named name :: rest) =
      insertedAt (.object fields') (named name :: rest) := by
  have hfield := h name
  have hfield' := h' name
  rw [if_neg hname] at hfield hfield'
  rw [insertedAt_named, insertedAt_named, ← hfield, ← hfield', heq]

/-- The object that preview images fit shows what is shown of their field, and it holds what is
found there. -/
theorem exists_thumbnails {thumbnails : Entries Thumbnail}
    (h : FitThumbnails thumbnails ((fields.get? "thumbnails").getD (.object [])))
    (hplain : ∀ name t, lookup? (.object fields) [named "thumbnails", named name] = some t →
      ∃ values, t = .object values) :
    ∃ values : Entries Json, FitThumbnails thumbnails (.object values) ∧
      (∀ name v, values.get? name = some v → ∃ values, v = .object values) ∧
      ∀ segment rest, insertedAt (.object fields) (named "thumbnails" :: segment :: rest) =
        insertedAt (.object values) (segment :: rest) := by
  obtain ⟨values, hvalues, hrel⟩ := h
  refine ⟨values, ⟨values, rfl, hrel⟩, fun name v hv => hplain name v ?_, fun segment rest => ?_⟩
  · -- the object is the one of the field, or there is no field and it is empty
    rw [lookup?_named]
    cases hfield : fields.get? "thumbnails" with
    | none =>
      rw [hfield, Option.getD_none] at hvalues
      cases hvalues
      cases hv
    | some w =>
      rw [hfield, Option.getD_some] at hvalues
      rw [hvalues, Option.bind_some, lookup?_named, hv]
      rfl
  · rw [insertedAt_named, insertedAt_getD (insertedAt_emptyObject segment rest), hvalues]

/-- A snippet decides what is shown of the objects that it fits. -/
theorem Snippet.insertedAt_eq {s : Snippet} (h : s.Fits fields) (h' : s.Fits fields')
    (hplain : ∀ name t, lookup? (.object fields) [named "thumbnails", named name] = some t →
      ∃ values, t = .object values)
    (hplain' : ∀ name t, lookup? (.object fields') [named "thumbnails", named name] = some t →
      ∃ values, t = .object values)
    (hrest : ¬ Reshaped (named "snippet" :: rest)) :
    insertedAt (.object fields) rest = insertedAt (.object fields') rest := by
  cases rest with
  | nil => exact absurd .snippet hrest
  | cons segment rest =>
    cases segment with
    | index n => rw [insertedAt_index, insertedAt_index]
    | key name =>
      rw [Segment.key_eq_named] at hrest ⊢
      generalize String.ofList name = name at hrest ⊢
      -- the fields that are kept by name, and then all others
      by_cases htitle : name = "title"
      · subst htitle
        exact insertedAt_text_eq h.title h'.title rest
      by_cases hdescription : name = "description"
      · subst hdescription
        exact insertedAt_text_eq h.description h'.description rest
      by_cases hchannel : name = "channelTitle"
      · subst hchannel
        exact insertedAt_text_eq h.channelTitle h'.channelTitle rest
      by_cases hthumbnails : name = "thumbnails"
      · subst hthumbnails
        cases rest with
        | nil => exact absurd .thumbnails hrest
        | cons segment rest =>
          obtain ⟨values, hvalues, hobjects, heq⟩ := exists_thumbnails h.thumbnails hplain
          obtain ⟨values', hvalues', hobjects', heq'⟩ := exists_thumbnails h'.thumbnails hplain'
          rw [heq, heq']
          exact insertedAt_thumbnails_eq hvalues hvalues' hobjects hobjects' hrest
      · exact insertedAt_extra_eq h.extra h'.extra
          (Snippet.notMem_names htitle hdescription hchannel hthumbnails) rfl rest

/-- Technical details decide what is shown of the objects that they fit. -/
theorem Details.insertedAt_eq {d : Details} (h : d.Fits fields) (h' : d.Fits fields')
    (hrest : rest ≠ []) :
    insertedAt (.object fields) rest = insertedAt (.object fields') rest := by
  cases rest with
  | nil => exact absurd rfl hrest
  | cons segment rest =>
    cases segment with
    | index n => rw [insertedAt_index, insertedAt_index]
    | key name =>
      rw [Segment.key_eq_named]
      generalize String.ofList name = name
      by_cases hduration : name = "duration"
      · subst hduration
        exact insertedAt_text_eq h.duration h'.duration rest
      · exact insertedAt_extra_eq h.extra h'.extra (Details.notMem_names hduration) rfl rest

/-! ### Items -/

/-- A record that may be absent decides what is shown of the values that it fits, if it does so
where it is present. -/
theorem insertedAt_optional_eq {α : Type} {Fits : α → Entries Json → Prop} {o : Option α}
    {v v' : Json} (h : FitsOptional (FitsObject Fits) o v)
    (h' : FitsOptional (FitsObject Fits) o v')
    (heq : ∀ a fields fields', v = .object fields → v' = .object fields' → Fits a fields →
      Fits a fields' → insertedAt (.object fields) rest = insertedAt (.object fields') rest) :
    insertedAt v rest = insertedAt v' rest := by
  cases o with
  | none =>
    obtain rfl : v = .null := h
    obtain rfl : v' = .null := h'
    rfl
  | some a =>
    obtain ⟨fields, rfl, hfits⟩ := h
    obtain ⟨fields', rfl, hfits'⟩ := h'
    exact heq a fields fields' rfl rfl hfits hfits'

theorem HasPlainThumbnails.snippet (h : HasPlainThumbnails (.object fields))
    {values : Entries Json} (hvalues : (fields.get? "snippet").getD .null = .object values) :
    ∀ name t, lookup? (.object values) [named "thumbnails", named name] = some t →
      ∃ values, t = .object values := by
  intro name t ht
  refine h name t ?_
  rw [lookup?_named]
  cases hfield : fields.get? "snippet" with
  | none =>
    rw [hfield] at hvalues
    cases hvalues
  | some v =>
    rw [hfield, Option.getD_some] at hvalues
    rw [hvalues]
    exact ht

/-- An item as templates see it has the fields of the item, but for those that are derived. -/
theorem Item.get?_shown (item : Item) {name : String} (htime : name ≠ "_playingTime")
    (hposter : name ≠ "_posterId") : item.shown.extra.get? name = item.extra.get? name :=
  (Entries.get?_insert_of_ne hposter _ _).trans (Entries.get?_insert_of_ne htime _ _)

/-- An item decides what is shown of the objects that it fits, and its derived fields change
nothing elsewhere. -/
theorem Item.insertedAt_eq {item : Item} (h : item.Fits fields) (h' : item.shown.Fits fields')
    (hplain : HasPlainThumbnails (.object fields)) (hplain' : HasPlainThumbnails (.object fields'))
    (hrest : rest ≠ []) (hreshaped : ¬ Reshaped rest) :
    insertedAt (.object fields') rest = insertedAt (.object fields) rest := by
  cases rest with
  | nil => exact absurd rfl hrest
  | cons segment rest =>
    cases segment with
    | index n => rw [insertedAt_index, insertedAt_index]
    | key name =>
      rw [Segment.key_eq_named] at hreshaped ⊢
      generalize String.ofList name = name at hreshaped ⊢
      -- the fields that are kept by name, and then all others but the derived ones
      by_cases hid : name = "id"
      · subst hid
        have hshown : fields'.get? "id" = some (.text item.id) := h'.id
        rw [insertedAt_named, insertedAt_named, h.id, hshown]
      by_cases hsnippet : name = "snippet"
      · subst hsnippet
        rw [insertedAt_named, insertedAt_named]
        refine insertedAt_optional_eq h'.snippet h.snippet fun s values values' hv hv' hs hs' => ?_
        exact Snippet.insertedAt_eq hs hs' (hplain'.snippet hv) (hplain.snippet hv') hreshaped
      by_cases hdetails : name = "contentDetails"
      · subst hdetails
        have hne : rest ≠ [] := by
          rintro rfl
          exact hreshaped .details
        rw [insertedAt_named, insertedAt_named]
        exact insertedAt_optional_eq h'.details h.details fun d values values' _ _ hd hd' =>
          Details.insertedAt_eq hd hd' hne
      · have htime : name ≠ "_playingTime" := by
          rintro rfl
          exact hreshaped (.playingTime rest)
        have hposter : name ≠ "_posterId" := by
          rintro rfl
          exact hreshaped (.posterId rest)
        exact insertedAt_extra_eq h'.extra h.extra (Item.notMem_names hid hsnippet hdetails)
          (item.get?_shown htime hposter) rest

/-- What is written of an item has its preview images as objects. -/
theorem Item.IsSound.hasPlainThumbnails {item : Item} (h : item.IsSound) :
    HasPlainThumbnails item.toJson := by
  intro name t ht
  rw [Item.toJson, lookup?_named, h.get?_snippet, Option.bind_some] at ht
  -- where there is no snippet there are no preview images either
  cases hs : item.snippet with
  | none =>
    rw [hs] at ht
    cases ht
  | some s =>
    have hthumbnails := (h.snippet s hs).get?_thumbnails
    rw [hs, Option.map_some, Option.getD_some, Snippet.toJson_eq, lookup?_named, hthumbnails,
      Option.bind_some, lookup?_named, Entries.get?_map] at ht
    obtain ⟨w, hw, heq⟩ := Option.bind_eq_some_iff.1 ht
    obtain ⟨thumbnail, -, rfl⟩ := Option.map_eq_some_iff.1 hw
    exact ⟨_, (Option.some.inj heq).symm⟩

/-- The duration of an item is the one that is shown of it. -/
theorem Item.Fits.duration_eq {item : Item} (h : item.Fits fields) : item.duration =
    Duration.parse (String.ofList
      (insertedAt (.object fields) [named "contentDetails", named "duration"])) := by
  have hdetails := h.details
  rw [insertedAt_named, Item.duration]
  cases hd : item.details with
  | none =>
    rw [hd] at hdetails
    -- without technical details the duration is that of an empty text
    have hnull : (fields.get? "contentDetails").getD .null = .null := hdetails
    rw [hnull, insertedAt_null]
    rfl
  | some d =>
    rw [hd] at hdetails
    obtain ⟨values, hvalues, hfits⟩ := hdetails
    rw [hvalues, insertedAt_named, insertedAt_getD (insertedAt_emptyText []), hfits.duration]
    show Duration.parse d.duration = Duration.parse (String.ofList d.duration.toList)
    rw [String.ofList_toList]

/-- **Templates show of a video what they show of the value that its item was read from, on all
paths that are not reshaped; the paths that are derived show the playing time of the duration
that the value has and the identifier of the poster, whatever else the value has there.** -/
theorem insertedAt_templateData {room : Nat} {node : Node} {v : Json} {item : Item}
    (hv : Json.anyValue room node = .ok v) (hitem : readItem room node = .ok item) :
    (HasPlainThumbnails v → ∀ path, path ≠ [] → ¬ Reshaped path →
      insertedAt (ofItem item).templateData path = insertedAt v path) ∧
    insertedAt (ofItem item).templateData [named "_playingTime"] =
      (Duration.parse (String.ofList
        (insertedAt v [named "contentDetails", named "duration"]))).display.toList ∧
    insertedAt (ofItem item).templateData [named "_posterId"] =
      "autotube-poster-".toList ++ insertedAt v [named "id"] := by
  obtain ⟨fields, rfl, hfits⟩ := readItem_fits hitem hv
  have hsound : item.IsSound := readItem_yields hitem
  refine ⟨fun hplain path hne hreshaped => ?_, ?_, ?_⟩
  · rw [hsound.templateData_eq]
    exact Item.insertedAt_eq hfits hsound.shown.fits_fields hplain
      hsound.shown.hasPlainThumbnails hne hreshaped
  · rw [← hfits.duration_eq, templateData, insertedAt_named, Entries.get?_insert_of_ne (by decide),
      Entries.get?_insert_self]
    rfl
  · rw [templateData, insertedAt_named, Entries.get?_insert_self, insertedAt_named, hfits.id]
    exact String.toList_append

/-- An item with a field that has the name of a derived one. -/
def playedNode : Node :=
  .object [(.plain "_playingTime", .bool true),
    (.plain "contentDetails", .object [(.plain "duration", .text (.plain "PT1M5S"))] none),
    (.plain "id", .text (.plain "abc")),
    (.plain "snippet", .object [(.plain "tags", .array [.text (.plain "a"), .null] none)] none)]
    none

theorem insertedAt_templateData_played :
    ∃ v item, Json.anyValue 3 playedNode = .ok v ∧ readItem 3 playedNode = .ok item ∧
      insertedAt (ofItem item).templateData [named "snippet", named "tags"] = ['a', ','] ∧
      insertedAt (ofItem item).templateData [named "_playingTime"] = "1:05".toList ∧
      insertedAt (ofItem item).templateData [named "_posterId"] = "autotube-poster-abc".toList := by
  obtain ⟨v, hv⟩ : ∃ v, Json.anyValue 3 playedNode = .ok v := ⟨_, rfl⟩
  obtain ⟨item, hitem⟩ : ∃ item, readItem 3 playedNode = .ok item := ⟨_, rfl⟩
  obtain ⟨hpaths, htime, hposter⟩ := insertedAt_templateData hv hitem
  refine ⟨v, item, hv, hitem, ?_, ?_, ?_⟩
  · have hplain : HasPlainThumbnails v := by
      cases hv
      intro name t ht
      cases ht
    have hreshaped : ¬ Reshaped [named "snippet", named "tags"] := by
      intro h
      cases h
    rw [hpaths hplain _ (List.cons_ne_nil _ _) hreshaped]
    cases hv
    rfl
  · rw [htime]
    cases hv
    rfl
  · rw [hposter]
    cases hv
    rfl

end Video

end VideoPosters
