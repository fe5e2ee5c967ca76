import VideoPosters.Proofs.Video.Records

/-!
# Writing metadata and reading it back

A record that fits a value is what is read from it, so that reading back what was written
comes down to one thing: a record fits what is written of it.  That is where no field may
have changed its place, neither a declared one nor one that was kept.

## Main definitions

* `Item.shown` — an item as templates see it.

## Main results

* `readThumbnail_accepts`, `readSnippet_accepts`, `readDetails_accepts`, `readItem_accepts` —
  a record is read from any value that it fits.
* `Snippet.IsSound.fits_fields`, `Details.IsSound.fits_fields`, `Item.IsSound.fits_fields` — a
  record fits what is written of it.
* `Item.IsSound.templateData_eq` — the template data are what is written of an item as templates
  see it.
* `metadata_reads_back` — **a listing that was read is read back as it is, and the template data
  of its items are a fixed point.**
-/

namespace VideoPosters.Video

open Json (Node Reader FitsOptional)

/-! ### What fits is read -/

section

variable {α β : Type} {read : Reader α} {R : α → Json → Prop} {P : α → Prop} {a : α} {v : Json}

/-- A value is read as what fits it if it is read at all, and only one thing fits it. -/
theorem accepts_of_fits (hfits : Reader.Fits read R) (hyields : Reader.Yields read P)
    (hordered : v.IsOrdered)
    (hread : ∀ room, v.height ≤ room → ∃ b, read room (.ofJson v) = .ok b)
    (hunique : ∀ b, R b v → P b → b = a) : Reader.Accepts read v a := by
  intro room hroom
  obtain ⟨b, hb⟩ := hread room hroom
  -- what was read fits the value too, and so it is the same
  rw [hb, hunique b (hfits hb (hordered.accepts room hroom)) (hyields hb)]

/-- A field is taken if it has not come before and can be read. -/
theorem exists_once {f : Option α → β} {name : String} {slot : Option α} {done : Entries Json}
    {room : Nat} (hslot : Option.Rel R slot (done.get? name)) (hnone : done.get? name = none)
    (hread : Reader.Accepts read v a) (hroom : v.height ≤ room) :
    ∃ s', (do return f (← once name slot (read room (.ofJson v)))) = Except.ok s' := by
  refine ⟨f (some a), ?_⟩
  rw [once_of_none (eq_none_of_rel hslot hnone) (hread room hroom)]
  rfl

theorem eq_of_getD {o : Option Json} {w d : Json} (h : o.getD d = w) (hv : o = some v) :
    v = w := by
  rw [hv] at h
  exact h

/-- Something that may be absent is read from a value that it fits. -/
theorem optional_accepts_of_fits {Fits : α → Entries Json → Prop} {o : Option α}
    (h : FitsOptional (FitsObject Fits) o v)
    (hread : ∀ a fields, o = some a → v = .object fields → Fits a fields →
      Reader.Accepts read v a) : Reader.Accepts (Json.optional read) v o := by
  cases o with
  | none =>
    obtain rfl : v = .null := h
    exact Json.optional_accepts_null
  | some a =>
    obtain ⟨fields, rfl, hfits⟩ := h
    exact Json.optional_accepts (hread a fields rfl rfl hfits) (fun h => nomatch h)

end

theorem numberOrNull_accepts {n : Option Nat} (h : ∀ m, n = some m → m < Nat.pow 2 32) :
    Reader.Accepts (Json.optional Json.word32) (numberOrNull n) n := by
  cases n with
  | none => exact Json.optional_accepts_null
  | some m => exact Json.optional_accepts (Json.word32_accepts (h m rfl)) (fun h => nomatch h)

section

variable {fields done : Entries Json} {name : String} {v : Json} {room : Nat}

theorem ThumbnailDraft.exists_step {draft : ThumbnailDraft} {t : Thumbnail} (h : t.Fits fields)
    (hsound : t.IsSound) (hdraft : draft.Fits done) (hnone : done.get? name = none)
    (hv : fields.get? name = some v) (hroom : v.height ≤ room) :
    ∃ draft', draft.step room name (.ofJson v) = .ok draft' := by
  -- a field that the image fits is the one that its draft waits for
  rw [ThumbnailDraft.step.eq_def]
  split
  · obtain rfl : v = .text t.url := Option.some.inj (hv.symm.trans h.url)
    exact exists_once hdraft.url hnone (Json.string_accepts t.url) hroom
  · obtain rfl : v = numberOrNull t.width := eq_of_getD h.width hv
    exact exists_once hdraft.width hnone (numberOrNull_accepts hsound.width) hroom
  · obtain rfl : v = numberOrNull t.height := eq_of_getD h.height hv
    exact exists_once hdraft.height hnone (numberOrNull_accepts hsound.height) hroom
  · refine ⟨draft, ?_⟩
    rw [Json.skip, Json.skip_ofJson]
    rfl

/-- A preview image is read from any value that it fits. -/
theorem readThumbnail_accepts {t : Thumbnail} (h : t.FitsValue v) (hsound : t.IsSound)
    (hordered : v.IsOrdered) : Reader.Accepts readThumbnail v t := by
  refine accepts_of_fits readThumbnail_fits readThumbnail_yields hordered (fun room hroom => ?_)
    fun b hb _ => Thumbnail.eq_of_fitsValue hb h
  cases h with
  | object h =>
    rw [Json.height] at hroom
    obtain ⟨draft, hread, hdraft⟩ := Json.exists_foldFields_of_fits (R := ThumbnailDraft.Fits)
      hordered (Nat.le_sub_one_of_lt hroom) ThumbnailDraft.Fits.step
      (ThumbnailDraft.exists_step h hsound) ThumbnailDraft.fits_empty
    obtain ⟨url, hurl, -⟩ := exists_slot_of_rel hdraft.url h.url
    refine ⟨⟨url, draft.width.getD none, draft.height.getD none⟩, ?_⟩
    -- the fields are all taken, so the one that must be there has come
    rw [Node.ofJson, readThumbnail, Json.enter_of_pos (by omega)]
    show (Json.foldFields _ _ _ none).bind _ = _
    rw [hread]
    show (required "url" draft.url).bind _ = _
    rw [hurl]
    rfl
  | array =>
    refine ⟨t, ?_⟩
    simp only [Json.height, Json.heightOfItems] at hroom
    rw [Node.ofJson, readThumbnail, Json.enter_of_pos (by omega)]
    have hwidth := numberOrNull_accepts hsound.width (room - 1) (by omega)
    have hheight := numberOrNull_accepts hsound.height (room - 1) (by omega)
    simp only [Json.nodesOfItems, Node.ofJson, thumbnailPlace, Json.nextItem, Json.string,
      Json.Passage.read, Json.endItems, Json.checkBreak, hwidth, hheight, bind,
      Except.bind, pure, Except.pure]

/-- The fields of an object in order are in order, and so are their values. -/
theorem isOrdered_of_get? (hordered : Json.IsOrdered (.object fields))
    (hv : fields.get? name = some v) : v.IsOrdered := by
  cases hordered with
  | object _ h => exact h name v hv

theorem fitThumbnails_accepts {thumbnails : Entries Thumbnail} (h : FitThumbnails thumbnails v)
    (hentries : thumbnails.IsOrdered)
    (hsound : ∀ name t, thumbnails.get? name = some t → t.IsSound) (hordered : v.IsOrdered) :
    Reader.Accepts (Json.entriesOf readThumbnail) v thumbnails := by
  obtain ⟨fields, rfl, h⟩ := h
  cases hordered with
  | object hfields hvalues =>
    refine Json.entriesOf_accepts hentries hfields fun name => ?_
    have hname := h name
    have hsound' := hsound name
    have hvalues' := hvalues name
    generalize thumbnails.get? name = t? at hname hsound' ⊢
    generalize fields.get? name = v? at hname hvalues' ⊢
    cases hname with
    | none => exact .none
    | some hfits =>
      exact .some (readThumbnail_accepts hfits (hsound' _ rfl) (hvalues' _ rfl))

theorem SnippetDraft.exists_step {draft : SnippetDraft} {s : Snippet} (h : s.Fits fields)
    (hsound : s.IsSound) (hordered : Json.IsOrdered (.object fields)) (hdraft : draft.Fits done)
    (hnone : done.get? name = none) (hv : fields.get? name = some v) (hroom : v.height ≤ room) :
    ∃ draft', draft.step room name (.ofJson v) = .ok draft' := by
  have hvalue := isOrdered_of_get? hordered hv
  rw [SnippetDraft.step.eq_def]
  split
  · obtain rfl : v = .text s.title := eq_of_getD h.title hv
    exact exists_once hdraft.title hnone (Json.string_accepts s.title) hroom
  · obtain rfl : v = .text s.description := eq_of_getD h.description hv
    exact exists_once hdraft.description hnone (Json.string_accepts s.description) hroom
  · obtain rfl : v = .text s.channelTitle := eq_of_getD h.channelTitle hv
    exact exists_once hdraft.channelTitle hnone (Json.string_accepts s.channelTitle) hroom
  · have hfits := h.thumbnails
    rw [hv] at hfits
    exact exists_once hdraft.thumbnails hnone
      (fitThumbnails_accepts hfits hsound.isOrdered hsound.thumbnails hvalue) hroom
  · rw [hvalue.accepts room hroom]
    exact ⟨_, rfl⟩

/-- A snippet is read from any object that it fits. -/
theorem readSnippet_accepts {s : Snippet} (h : s.Fits fields) (hsound : s.IsSound)
    (hordered : Json.IsOrdered (.object fields)) :
    Reader.Accepts readSnippet (.object fields) s := by
  refine accepts_of_fits readSnippet_fits readSnippet_yields hordered (fun room hroom => ?_) ?_
  · rw [Json.height] at hroom
    obtain ⟨draft, hread, -⟩ := Json.exists_foldFields_of_fits (R := SnippetDraft.Fits) hordered
      (Nat.le_sub_one_of_lt hroom) SnippetDraft.Fits.step
      (SnippetDraft.exists_step h hsound hordered) SnippetDraft.fits_empty
    refine ⟨draft.finish, ?_⟩
    rw [Node.ofJson, readSnippet, Json.enter_of_pos (by omega)]
    show (Json.foldFields _ _ _ none).bind _ = _
    rw [hread]
    rfl
  · rintro s' ⟨fields', heq, h'⟩ hsound'
    cases heq
    exact Snippet.eq_of_fits h' h hsound' hsound

theorem DetailsDraft.exists_step {draft : DetailsDraft} {d : Details} (h : d.Fits fields)
    (hordered : Json.IsOrdered (.object fields)) (hdraft : draft.Fits done)
    (hnone : done.get? name = none) (hv : fields.get? name = some v) (hroom : v.height ≤ room) :
    ∃ draft', draft.step room name (.ofJson v) = .ok draft' := by
  rw [DetailsDraft.step.eq_def]
  split
  · obtain rfl : v = .text d.duration := eq_of_getD h.duration hv
    exact exists_once hdraft.duration hnone (Json.string_accepts d.duration) hroom
  · rw [(isOrdered_of_get? hordered hv).accepts room hroom]
    exact ⟨_, rfl⟩

/-- Technical details are read from any object that they fit. -/
theorem readDetails_accepts {d : Details} (h : d.Fits fields) (hsound : d.IsSound)
    (hordered : Json.IsOrdered (.object fields)) :
    Reader.Accepts readDetails (.object fields) d := by
  refine accepts_of_fits readDetails_fits readDetails_yields hordered (fun room hroom => ?_) ?_
  · rw [Json.height] at hroom
    obtain ⟨draft, hread, -⟩ := Json.exists_foldFields_of_fits (R := DetailsDraft.Fits) hordered
      (Nat.le_sub_one_of_lt hroom) DetailsDraft.Fits.step (DetailsDraft.exists_step h hordered)
      DetailsDraft.fits_empty
    refine ⟨draft.finish, ?_⟩
    rw [Node.ofJson, readDetails, Json.enter_of_pos (by omega)]
    show (Json.foldFields _ _ _ none).bind _ = _
    rw [hread]
    rfl
  · rintro d' ⟨fields', heq, h'⟩ hsound'
    cases heq
    exact Details.eq_of_fits h' h hsound' hsound

theorem ItemDraft.exists_step {draft : ItemDraft} {item : Item} (h : item.Fits fields)
    (hsound : item.IsSound) (hordered : Json.IsOrdered (.object fields))
    (hdraft : draft.Fits done) (hnone : done.get? name = none) (hv : fields.get? name = some v)
    (hroom : v.height ≤ room) : ∃ draft', draft.step room name (.ofJson v) = .ok draft' := by
  have hvalue := isOrdered_of_get? hordered hv
  rw [ItemDraft.step.eq_def]
  -- each declared field is read as what it was written from, and all others are kept
  split
  · obtain rfl : v = .text item.id := Option.some.inj (hv.symm.trans h.id)
    exact exists_once hdraft.id hnone (Json.string_accepts item.id) hroom
  · have hfits := h.snippet
    rw [hv] at hfits
    refine exists_once hdraft.snippet hnone (optional_accepts_of_fits hfits ?_) hroom
    rintro s values hs rfl hs'
    exact readSnippet_accepts hs' (hsound.snippet s hs) hvalue
  · have hfits := h.details
    rw [hv] at hfits
    refine exists_once hdraft.details hnone (optional_accepts_of_fits hfits ?_) hroom
    rintro d values hd rfl hd'
    exact readDetails_accepts hd' (hsound.details d hd) hvalue
  · rw [hvalue.accepts room hroom]
    exact ⟨_, rfl⟩

/-- An item is read from any object that it fits. -/
theorem readItem_accepts {item : Item} (h : item.Fits fields) (hsound : item.IsSound)
    (hordered : Json.IsOrdered (.object fields)) :
    Reader.Accepts readItem (.object fields) item := by
  refine accepts_of_fits readItem_fits readItem_yields hordered (fun room hroom => ?_) ?_
  · rw [Json.height] at hroom
    obtain ⟨draft, hread, hdraft⟩ := Json.exists_foldFields_of_fits (R := ItemDraft.Fits) hordered
      (Nat.le_sub_one_of_lt hroom) ItemDraft.Fits.step
      (ItemDraft.exists_step h hsound hordered) ItemDraft.fits_empty
    obtain ⟨id, hid, -⟩ := exists_slot_of_rel hdraft.id h.id
    refine ⟨draft.finish id, ?_⟩
    rw [Node.ofJson, readItem, Json.enter_of_pos (by omega)]
    show (Json.foldFields _ _ _ none).bind _ = _
    rw [hread]
    show (required "id" draft.id).bind _ = _
    rw [hid]
    rfl
  · rintro item' ⟨fields', heq, h'⟩ hsound'
    cases heq
    exact Item.eq_of_fits h' h hsound' hsound

end

/-! ### What is written fits -/

section

variable {names : List String} {base extra : Entries Json} {name : String}

/-- The fields that are kept cover no declared one. -/
theorem IsExtra.get?_insertAll (h : IsExtra names extra) (hname : name ∈ names)
    (base : Entries Json) : (base.insertAll extra).get? name = base.get? name := by
  rw [Entries.get?_insertAll h.entries, h.undeclared name hname, Option.none_or]

/-- The fields that are kept are those beside the declared ones. -/
theorem IsExtra.isRest (h : IsExtra names extra)
    (hbase : ∀ name, name ∉ names → base.get? name = none) :
    IsRest names extra (base.insertAll extra) := by
  intro name
  split
  · next hname => exact h.undeclared name hname
  · next hname => rw [Entries.get?_insertAll h.entries, hbase name hname, Option.or_none]

theorem IsExtra.isOrdered_of_mem (h : IsExtra names extra) {field : String × Json}
    (hfield : field ∈ extra) : field.2.IsOrdered :=
  isOrdered_of_get? h.isOrdered (h.entries.mem_iff.1 hfield)

end

theorem isOrdered_numberOrNull (n : Option Nat) : (numberOrNull n).IsOrdered := by
  cases n with
  | none => exact .null
  | some n => exact .int n

namespace Thumbnail

variable (t : Thumbnail)

theorem fits_toJson : t.FitsValue t.toJson := by
  refine .object ⟨?_, ?_, ?_⟩
  · simp [Entries.ofList, Entries.get?_insert, Entries.get?]
  · simp [Entries.ofList, Entries.get?_insert]
  · simp [Entries.ofList]

theorem isOrdered_toJson : t.toJson.IsOrdered := by
  refine Json.isOrdered_ofList ?_
  simp only [List.forall_mem_cons]
  exact ⟨.text _, isOrdered_numberOrNull _, isOrdered_numberOrNull _, fun _ h => nomatch h⟩

end Thumbnail

theorem fitThumbnails_map (thumbnails : Entries Thumbnail) :
    FitThumbnails thumbnails (.object (thumbnails.map fun (name, t) => (name, t.toJson))) := by
  refine ⟨_, rfl, fun name => ?_⟩
  rw [Entries.get?_map]
  cases thumbnails.get? name with
  | none => exact .none
  | some t => exact .some t.fits_toJson

theorem isOrdered_map {thumbnails : Entries Thumbnail} (h : thumbnails.IsOrdered) :
    Json.IsOrdered (.object (thumbnails.map fun (name, t) => (name, t.toJson))) := by
  refine .object (h.map Thumbnail.toJson) fun name v hv => ?_
  rw [Entries.get?_map] at hv
  obtain ⟨t, -, rfl⟩ := Option.map_eq_some_iff.1 hv
  exact t.isOrdered_toJson

namespace Snippet

variable {s : Snippet}

/-- The fields of a snippet that are written of it. -/
def fields (s : Snippet) : Entries Json :=
  (Entries.ofList [("title", .text s.title), ("description", .text s.description),
    ("channelTitle", .text s.channelTitle),
    ("thumbnails", .object (s.thumbnails.map fun (name, t) => (name, t.toJson)))]).insertAll s.extra

theorem toJson_eq (s : Snippet) : s.toJson = .object s.fields := rfl

theorem IsSound.get?_thumbnails (h : s.IsSound) : s.fields.get? "thumbnails" =
    some (.object (s.thumbnails.map fun (name, t) => (name, t.toJson))) := by
  rw [fields, h.extra.get?_insertAll (by decide)]
  simp [Entries.ofList]

theorem IsSound.fits_fields (h : s.IsSound) : s.Fits s.fields := by
  refine ⟨?_, ?_, ?_, ?_, h.extra.isRest fun name hname => ?_⟩
  · rw [fields, h.extra.get?_insertAll (by decide)]
    simp [Entries.ofList, Entries.get?_insert, Entries.get?]
  · rw [fields, h.extra.get?_insertAll (by decide)]
    simp [Entries.ofList, Entries.get?_insert]
  · rw [fields, h.extra.get?_insertAll (by decide)]
    simp [Entries.ofList, Entries.get?_insert]
  · rw [h.get?_thumbnails]
    exact fitThumbnails_map s.thumbnails
  · exact Entries.get?_insertAll_of_notMem hname []

theorem IsSound.isOrdered_fields (h : s.IsSound) : Json.IsOrdered (.object s.fields) := by
  refine Json.IsOrdered.insertAll (Json.isOrdered_ofList ?_) fun _ => h.extra.isOrdered_of_mem
  simp only [List.forall_mem_cons]
  exact ⟨.text _, .text _, .text _, isOrdered_map h.isOrdered, fun _ h => nomatch h⟩

end Snippet

namespace Details

variable {d : Details}

/-- The fields of technical details that are written of them. -/
def fields (d : Details) : Entries Json :=
  (Entries.ofList [("duration", .text d.duration)]).insertAll d.extra

theorem IsSound.fits_fields (h : d.IsSound) : d.Fits d.fields := by
  refine ⟨?_, IsExtra.isRest h fun name hname => ?_⟩
  · rw [fields, IsExtra.get?_insertAll h (by decide)]
    simp [Entries.ofList, Entries.get?]
  · exact Entries.get?_insertAll_of_notMem hname []

theorem IsSound.isOrdered_fields (h : d.IsSound) : Json.IsOrdered (.object d.fields) := by
  refine Json.IsOrdered.insertAll (Json.isOrdered_ofList ?_) fun _ => IsExtra.isOrdered_of_mem h
  simp only [List.forall_mem_cons]
  exact ⟨.text _, fun _ h => nomatch h⟩

end Details

namespace Item

variable {item : Item}

theorem IsSound.get?_snippet (h : item.IsSound) :
    item.fields.get? "snippet" = some ((item.snippet.map Snippet.toJson).getD .null) := by
  rw [fields, h.extra.get?_insertAll (by decide)]
  simp [Entries.ofList, Entries.get?_insert]

theorem IsSound.get?_details (h : item.IsSound) :
    item.fields.get? "contentDetails" = some ((item.details.map Details.toJson).getD .null) := by
  rw [fields, h.extra.get?_insertAll (by decide)]
  simp [Entries.ofList]

theorem IsSound.fits_fields (h : item.IsSound) : item.Fits item.fields := by
  refine ⟨?_, ?_, ?_, h.extra.isRest fun name hname => ?_⟩
  · rw [fields, h.extra.get?_insertAll (by decide)]
    simp [Entries.ofList, Entries.get?_insert, Entries.get?]
  · rw [h.get?_snippet]
    cases hs : item.snippet with
    | none => rfl
    | some s => exact ⟨s.fields, rfl, (h.snippet s hs).fits_fields⟩
  · rw [h.get?_details]
    cases hd : item.details with
    | none => rfl
    | some d => exact ⟨d.fields, rfl, (h.details d hd).fits_fields⟩
  · exact Entries.get?_insertAll_of_notMem hname []

theorem IsSound.isOrdered_fields (h : item.IsSound) : Json.IsOrdered (.object item.fields) := by
  refine Json.IsOrdered.insertAll (Json.isOrdered_ofList ?_) fun _ => h.extra.isOrdered_of_mem
  simp only [List.forall_mem_cons]
  refine ⟨.text _, ?_, ?_, fun _ h => nomatch h⟩
  · cases hs : item.snippet with
    | none => exact .null
    | some s => exact (h.snippet s hs).isOrdered_fields
  · cases hd : item.details with
    | none => exact .null
    | some d => exact (h.details d hd).isOrdered_fields

/-- An item is read back from what is written of it. -/
theorem IsSound.accepts (h : item.IsSound) : Reader.Accepts readItem item.toJson item :=
  readItem_accepts h.fits_fields h h.isOrdered_fields

/-- An item with one field more, beside the declared ones. -/
def keep (item : Item) (name : String) (v : Json) : Item :=
  { item with extra := item.extra.insert name v }

theorem IsSound.keep (h : item.IsSound) {name : String} (hname : name ∉ names) {v : Json}
    (hv : v.IsOrdered) : (item.keep name v).IsSound :=
  ⟨h.snippet, h.details, h.extra.insert hname hv⟩

theorem IsSound.fields_keep (h : item.IsSound) (name : String) (v : Json) :
    (item.keep name v).fields = item.fields.insert name v :=
  Entries.insertAll_insert h.extra.entries (Entries.isOrdered_ofList _) name v

/-- An item as templates see it: with the playing time and the identifier of the poster. -/
def shown (item : Item) : Item :=
  (item.keep "_playingTime" (.text (ofItem item).playingTime)).keep "_posterId"
    (.text (ofItem item).posterId)

theorem IsSound.shown (h : item.IsSound) : item.shown.IsSound :=
  (h.keep (by decide) (.text _)).keep (by decide) (.text _)

/-- The template data of a video are what is written of its item as templates see it. -/
theorem IsSound.templateData_eq (h : item.IsSound) :
    (ofItem item).templateData = item.shown.toJson := by
  have hshown : item.shown.fields = (item.fields.insert "_playingTime"
      (.text (ofItem item).playingTime)).insert "_posterId" (.text (ofItem item).posterId) := by
    -- both derived fields are kept, and they have no declared names
    rw [Item.shown, (h.keep (by decide) (.text _)).fields_keep, h.fields_keep]
  exact congrArg Json.object hshown.symm

/-- Templates see nothing new of an item as templates see it. -/
theorem IsSound.shown_shown (h : item.IsSound) : item.shown.shown = item.shown := by
  have hextra := h.shown.extra.entries
  have htime : item.shown.extra.get? "_playingTime" = some (.text (ofItem item).playingTime) := by
    rw [Item.shown, Item.keep, Item.keep, Entries.get?_insert_of_ne (by decide),
      Entries.get?_insert_self]
  have hposter : item.shown.extra.get? "_posterId" = some (.text (ofItem item).posterId) :=
    Entries.get?_insert_self _ _ _
  -- both derived fields are there with these values, so keeping them again changes nothing
  have hkept : (item.shown.extra.insert "_playingTime" (.text (ofItem item).playingTime)).insert
      "_posterId" (.text (ofItem item).posterId) = item.shown.extra := by
    rw [hextra.insert_eq_self htime, hextra.insert_eq_self hposter]
  exact congrArg (fun extra => { item.shown with extra := extra }) hkept

/-- The template data of a video are read as an item with the same template data. -/
theorem IsSound.templateData_shown (h : item.IsSound) :
    (ofItem item.shown).templateData = (ofItem item).templateData := by
  rw [h.shown.templateData_eq, h.templateData_eq, h.shown_shown]

theorem IsSound.ofJson_templateData (h : item.IsSound) :
    Reader.ofJson readItem (ofItem item).templateData = .ok item.shown := by
  rw [h.templateData_eq]
  exact h.shown.accepts _ le_rfl

end Item

/-! ### Listings -/

namespace Listing

/-- A listing could have been read if its items could. -/
def IsSound (l : Listing) : Prop := ∀ item ∈ l.items, item.IsSound

theorem isSound_step {draft draft' : ListingDraft} {room : Nat} {name : String} {node : Node}
    (h : IsSound ⟨"", draft.items.getD []⟩) (hstep : draft.step room name node = .ok draft') :
    IsSound ⟨"", draft'.items.getD []⟩ := by
  rw [ListingDraft.step.eq_def] at hstep
  split at hstep
  · obtain ⟨-, a, -, rfl⟩ := of_once hstep
    exact h
  · obtain ⟨-, a, ha, rfl⟩ := of_once hstep
    exact Json.sequenceOf_yields readItem_yields ha
  · obtain ⟨_, -, hstep⟩ := exists_of_bind_eq_ok hstep
    cases hstep
    exact h

end Listing

theorem readListing_yields : Reader.Yields readListing Listing.IsSound := by
  -- only the items matter: a listing has no other part that could be unsound
  intro room node l h
  cases node with
  | object fields stop =>
    obtain ⟨_, -, h⟩ := exists_of_bind_eq_ok h
    obtain ⟨draft, hdraft, h⟩ := exists_of_bind_eq_ok h
    cases h
    exact Json.foldFields_keeps
      (P := fun draft : ListingDraft => Listing.IsSound ⟨"", draft.items.getD []⟩)
      Listing.isSound_step hdraft fun _ h => nomatch h
  | array items stop =>
    obtain ⟨_, -, h⟩ := exists_of_bind_eq_ok h
    obtain ⟨next, -, h⟩ := exists_of_bind_eq_ok h
    cases next with
    | none =>
      cases h
      exact fun _ h => nomatch h
    | some next =>
      obtain ⟨kind, -, h⟩ := exists_of_bind_eq_ok h
      obtain ⟨next, -, h⟩ := exists_of_bind_eq_ok h
      cases next with
      | none =>
        cases h
        exact fun _ h => nomatch h
      | some next =>
        obtain ⟨items, hitems, h⟩ := exists_of_bind_eq_ok h
        obtain ⟨_, -, h⟩ := exists_of_bind_eq_ok h
        cases h
        exact Json.sequenceOf_yields readItem_yields hitems
  | _ => exact absurd h Json.Node.reject_ne_ok

theorem Listing.toJson_eq (l : Listing) :
    l.toJson = .object [("items", .array (l.items.map Item.toJson)), ("kind", .text l.kind)] := by
  have hlt : "items" < "kind" := by decide
  rw [Listing.toJson, Entries.ofList, Entries.insertAll_cons, Entries.insertAll_cons,
    Entries.insert_nil, Entries.insert, if_pos hlt, Entries.insertAll_nil]

/-- A listing is read back from what is written of it. -/
theorem Listing.IsSound.accepts {l : Listing} (h : l.IsSound) :
    Reader.Accepts readListing l.toJson l := by
  intro room hroom
  rw [Listing.toJson_eq, Json.height, Json.heightOfFields, Json.heightOfFields] at hroom
  have hitems := Json.sequenceOf_accepts (fun item hitem => (h item hitem).accepts) (room - 1)
    (by omega)
  rw [Node.ofJson] at hitems
  -- the fields stand in order of their names, so the items come before the kind
  rw [Listing.toJson_eq, Node.ofJson, readListing, Json.enter_of_pos (by omega)]
  simp only [Json.nodesOfFields, Json.foldFields, Json.Passage.read, ListingDraft.step, hitems,
    once, Node.ofJson, Json.string, Json.checkBreak, bind, Except.bind, Except.map, pure,
    Except.pure, Option.getD_some]

/-- **A listing that was read, from whatever document, is read back from what is written of it;
and the template data of an item that was read, in a listing or by itself, are read as an item
with the same template data.** -/
theorem metadata_reads_back {room : Nat} {node : Node} :
    (∀ listing, readListing room node = .ok listing →
      Reader.ofJson readListing listing.toJson = .ok listing) ∧
    ∀ item, (readItem room node = .ok item ∨
        ∃ listing, readListing room node = .ok listing ∧ item ∈ listing.items) →
      ∃ item', Reader.ofJson readItem (ofItem item).templateData = .ok item' ∧
        (ofItem item').templateData = (ofItem item).templateData := by
  refine ⟨fun listing h => (readListing_yields h).accepts _ le_rfl, fun item h => ?_⟩
  have hsound : item.IsSound := by
    rcases h with h | ⟨listing, h, hitem⟩
    · exact readItem_yields h
    · exact readListing_yields h item hitem
  exact ⟨item.shown, hsound.ofJson_templateData, hsound.templateData_shown⟩

/-- A document with a declared field, a kept one and a preview image without measures. -/
def sampleNode : Node :=
  .object [(.plain "items", .array [.object
    [(.plain "etag", .array [.null] none), (.plain "id", .text (.plain "abc")),
      (.plain "snippet", .object [(.plain "thumbnails", .object
        [(.plain "high", .object [(.plain "url", .text (.plain "https://i.example/h.jpg"))] none)]
        none)] none)] none] none)] none

/-- The item of that document. -/
def sampleItem : Item :=
  ⟨"abc", some ⟨"", "", "", [("high", ⟨"https://i.example/h.jpg", none, none⟩)], []⟩, none,
    [("etag", .array [.null])]⟩

theorem metadata_reads_back_sample :
    (readListing 6 sampleNode = .ok ⟨"", [sampleItem]⟩ ∧
      Reader.ofJson readListing (Listing.mk "" [sampleItem]).toJson = .ok ⟨"", [sampleItem]⟩) ∧
    ∃ item', Reader.ofJson readItem (ofItem sampleItem).templateData = .ok item' ∧
      (ofItem item').templateData = (ofItem sampleItem).templateData := by
  have hread : readListing 6 sampleNode = .ok ⟨"", [sampleItem]⟩ := rfl
  exact ⟨⟨hread, metadata_reads_back.1 _ hread⟩,
    metadata_reads_back.2 sampleItem (.inr ⟨_, hread, List.mem_singleton_self _⟩)⟩

end VideoPosters.Video
