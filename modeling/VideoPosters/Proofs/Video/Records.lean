import VideoPosters.Proofs.Video.Thumbnails

/-!
# What is read of a video

An item of metadata, its snippet and its details declare some fields and keep all others.
Of each this file says how it fits the fields that it was read from, and that these fields
determine it.

## Main definitions

* `Snippet.Fits`, `Details.Fits`, `Item.Fits` — whether a record says what some fields say.
* `Snippet.IsSound`, `Details.IsSound`, `Item.IsSound` — whether a record could have been
  read.

## Main results

* `readItem_fits` — an item fits the value of the node that it was read from.
* `readItem_yields` — what is read is sound.
* `Item.eq_of_fits` — **an item is determined by the fields that it fits.**
-/

namespace VideoPosters.Video

open Json (Node Reader FitsOptional)

/-! ### What the records say -/

/-- Whether preview images say what an object says under the same names. -/
def FitThumbnails (thumbnails : Entries Thumbnail) (v : Json) : Prop :=
  ∃ fields : Entries Json, v = .object fields ∧
    ∀ name, Option.Rel Thumbnail.FitsValue (thumbnails.get? name) (fields.get? name)

theorem fitThumbnails_nil : FitThumbnails [] (.object []) := ⟨[], rfl, fun _ => .none⟩

theorem eq_of_fitThumbnails {thumbnails thumbnails' : Entries Thumbnail} {v : Json}
    (h : FitThumbnails thumbnails v) (h' : FitThumbnails thumbnails' v)
    (hordered : thumbnails.IsOrdered) (hordered' : thumbnails'.IsOrdered) :
    thumbnails = thumbnails' := by
  obtain ⟨fields, rfl, h⟩ := h
  obtain ⟨fields', heq, h'⟩ := h'
  cases heq
  -- two entries of one name are both fitted by the value under that name
  refine hordered.ext hordered' fun name => ?_
  have hname := h name
  have hname' := h' name
  generalize thumbnails.get? name = t? at hname ⊢
  generalize thumbnails'.get? name = t?' at hname' ⊢
  generalize fields.get? name = v? at hname hname'
  cases hname with
  | none =>
    cases hname'
    rfl
  | some ht =>
    cases hname' with
    | some ht' => rw [Thumbnail.eq_of_fitsValue ht ht']

/-- The declared fields of a snippet. -/
def Snippet.names : List String := ["title", "description", "channelTitle", "thumbnails"]

theorem Snippet.notMem_names {name : String} (htitle : name ≠ "title")
    (hdescription : name ≠ "description") (hchannel : name ≠ "channelTitle")
    (hthumbnails : name ≠ "thumbnails") : name ∉ names := by
  simp only [names, List.mem_cons, List.not_mem_nil, or_false, not_or]
  exact ⟨htitle, hdescription, hchannel, hthumbnails⟩

/-- Whether a snippet says what some fields say; where a field is missing its default counts. -/
structure Snippet.Fits (s : Snippet) (fields : Entries Json) : Prop where
  title : (fields.get? "title").getD (.text "") = .text s.title
  description : (fields.get? "description").getD (.text "") = .text s.description
  channelTitle : (fields.get? "channelTitle").getD (.text "") = .text s.channelTitle
  thumbnails : FitThumbnails s.thumbnails ((fields.get? "thumbnails").getD (.object []))
  extra : IsRest names s.extra fields

/-- Whether a snippet could have been read. -/
structure Snippet.IsSound (s : Snippet) : Prop where
  isOrdered : s.thumbnails.IsOrdered
  thumbnails : ∀ name t, s.thumbnails.get? name = some t → t.IsSound
  extra : IsExtra names s.extra

/-- The declared fields of technical details. -/
def Details.names : List String := ["duration"]

theorem Details.notMem_names {name : String} (hduration : name ≠ "duration") :
    name ∉ names := by
  simp only [names, List.mem_singleton]
  exact hduration

/-- Whether technical details say what some fields say; where a field is missing its default
counts. -/
structure Details.Fits (d : Details) (fields : Entries Json) : Prop where
  duration : (fields.get? "duration").getD (.text "") = .text d.duration
  extra : IsRest names d.extra fields

/-- Whether technical details could have been read. -/
def Details.IsSound (d : Details) : Prop := IsExtra names d.extra

/-- The declared fields of an item. -/
def Item.names : List String := ["id", "snippet", "contentDetails"]

theorem Item.notMem_names {name : String} (hid : name ≠ "id") (hsnippet : name ≠ "snippet")
    (hdetails : name ≠ "contentDetails") : name ∉ names := by
  simp only [names, List.mem_cons, List.not_mem_nil, or_false, not_or]
  exact ⟨hid, hsnippet, hdetails⟩

/-- Whether a record says what an object says. -/
def FitsObject {α : Type} (Fits : α → Entries Json → Prop) (a : α) (v : Json) : Prop :=
  ∃ fields, v = .object fields ∧ Fits a fields

/-- Whether an item says what some fields say; a field that is missing says what null says. -/
structure Item.Fits (item : Item) (fields : Entries Json) : Prop where
  id : fields.get? "id" = some (.text item.id)
  snippet : FitsOptional (FitsObject Snippet.Fits) item.snippet
    ((fields.get? "snippet").getD .null)
  details : FitsOptional (FitsObject Details.Fits) item.details
    ((fields.get? "contentDetails").getD .null)
  extra : IsRest names item.extra fields

/-- Whether an item could have been read. -/
structure Item.IsSound (item : Item) : Prop where
  snippet : ∀ s, item.snippet = some s → s.IsSound
  details : ∀ d, item.details = some d → d.IsSound
  extra : IsExtra names item.extra

/-! ### The records are determined -/

theorem Snippet.eq_of_fits {s s' : Snippet} {fields : Entries Json} (h : s.Fits fields)
    (h' : s'.Fits fields) (hsound : s.IsSound) (hsound' : s'.IsSound) : s = s' := by
  obtain ⟨title, description, channelTitle, thumbnails, extra⟩ := s
  obtain ⟨title', description', channelTitle', thumbnails', extra'⟩ := s'
  obtain rfl : title = title' := Json.text.inj (h.title.symm.trans h'.title)
  obtain rfl : description = description' :=
    Json.text.inj (h.description.symm.trans h'.description)
  obtain rfl : channelTitle = channelTitle' :=
    Json.text.inj (h.channelTitle.symm.trans h'.channelTitle)
  -- equal entries need both to be in order, for the fit says nothing of how they are kept
  obtain rfl : thumbnails = thumbnails' :=
    eq_of_fitThumbnails h.thumbnails h'.thumbnails hsound.isOrdered hsound'.isOrdered
  obtain rfl : extra = extra' := h.extra.eq h'.extra hsound.extra hsound'.extra
  rfl

theorem Details.eq_of_fits {d d' : Details} {fields : Entries Json} (h : d.Fits fields)
    (h' : d'.Fits fields) (hsound : d.IsSound) (hsound' : d'.IsSound) : d = d' := by
  obtain ⟨duration, extra⟩ := d
  obtain ⟨duration', extra'⟩ := d'
  obtain rfl : duration = duration' := Json.text.inj (h.duration.symm.trans h'.duration)
  obtain rfl : extra = extra' := h.extra.eq h'.extra hsound hsound'
  rfl

/-- Records that may be absent are determined by a value if records are by their fields. -/
theorem eq_of_fitsOptional {α : Type} {Fits : α → Entries Json → Prop} {P : α → Prop}
    (heq : ∀ {a a' : α} {fields : Entries Json}, Fits a fields → Fits a' fields → P a → P a' →
      a = a') {o o' : Option α} {v : Json} (h : FitsOptional (FitsObject Fits) o v)
    (h' : FitsOptional (FitsObject Fits) o' v) (hP : ∀ a, o = some a → P a)
    (hP' : ∀ a, o' = some a → P a) : o = o' := by
  cases o with
  | none =>
    cases o' with
    | none => rfl
    | some a =>
      obtain ⟨fields, rfl, -⟩ := h'
      cases h
  | some a =>
    obtain ⟨fields, rfl, hfits⟩ := h
    cases o' with
    | none => cases h'
    | some a' =>
      obtain ⟨fields', hfields, hfits'⟩ := h'
      cases hfields
      rw [heq hfits hfits' (hP a rfl) (hP' a' rfl)]

/-- **An item is determined by the fields that it fits.** -/
theorem Item.eq_of_fits {item item' : Item} {fields : Entries Json} (h : item.Fits fields)
    (h' : item'.Fits fields) (hsound : item.IsSound) (hsound' : item'.IsSound) :
    item = item' := by
  obtain ⟨id, snippet, details, extra⟩ := item
  obtain ⟨id', snippet', details', extra'⟩ := item'
  obtain rfl : id = id' := Json.text.inj (Option.some.inj (h.id.symm.trans h'.id))
  obtain rfl : snippet = snippet' := eq_of_fitsOptional Snippet.eq_of_fits h.snippet h'.snippet
    hsound.snippet hsound'.snippet
  obtain rfl : details = details' := eq_of_fitsOptional Details.eq_of_fits h.details h'.details
    hsound.details hsound'.details
  obtain rfl : extra = extra' := h.extra.eq h'.extra hsound.extra hsound'.extra
  rfl

/-! ### Reading snippets -/

namespace SnippetDraft

/-- Whether the slots of a draft are filled from some fields. -/
structure Fits (draft : SnippetDraft) (fields : Entries Json) : Prop where
  title : Option.Rel (fun s v => v = .text s) draft.title (fields.get? "title")
  description : Option.Rel (fun s v => v = .text s) draft.description (fields.get? "description")
  channelTitle : Option.Rel (fun s v => v = .text s) draft.channelTitle
    (fields.get? "channelTitle")
  thumbnails : Option.Rel FitThumbnails draft.thumbnails (fields.get? "thumbnails")
  extra : IsRest Snippet.names draft.extra fields

/-- What a draft comes to. -/
def finish (draft : SnippetDraft) : Snippet :=
  ⟨draft.title.getD "", draft.description.getD "", draft.channelTitle.getD "",
    draft.thumbnails.getD [], draft.extra⟩

variable {draft draft' : SnippetDraft} {room : Nat} {name : String} {node : Node}

theorem fits_empty : Fits {} [] :=
  ⟨.none, .none, .none, .none, isRest_nil Snippet.names⟩

theorem Fits.finish {fields : Entries Json} (h : draft.Fits fields) :
    draft.finish.Fits fields :=
  ⟨getD_of_rel h.title rfl, getD_of_rel h.description rfl, getD_of_rel h.channelTitle rfl,
    getD_of_rel h.thumbnails fitThumbnails_nil, h.extra⟩

theorem Fits.step {done : Entries Json} {v : Json} (h : draft.Fits done)
    (hstep : draft.step room name node = .ok draft') (hv : Json.anyValue room node = .ok v) :
    draft'.Fits (done.insert name v) := by
  rw [SnippetDraft.step.eq_def] at hstep
  split at hstep
  · obtain ⟨-, a, ha, rfl⟩ := of_once hstep
    exact ⟨rel_insert_self (Json.string_fits ha hv), rel_insert_of_ne h.description (by decide) v,
      rel_insert_of_ne h.channelTitle (by decide) v, rel_insert_of_ne h.thumbnails (by decide) v,
      h.extra.insert_declared (by decide) v⟩
  · obtain ⟨-, a, ha, rfl⟩ := of_once hstep
    exact ⟨rel_insert_of_ne h.title (by decide) v, rel_insert_self (Json.string_fits ha hv),
      rel_insert_of_ne h.channelTitle (by decide) v, rel_insert_of_ne h.thumbnails (by decide) v,
      h.extra.insert_declared (by decide) v⟩
  · obtain ⟨-, a, ha, rfl⟩ := of_once hstep
    exact ⟨rel_insert_of_ne h.title (by decide) v, rel_insert_of_ne h.description (by decide) v,
      rel_insert_self (Json.string_fits ha hv), rel_insert_of_ne h.thumbnails (by decide) v,
      h.extra.insert_declared (by decide) v⟩
  · obtain ⟨-, a, ha, rfl⟩ := of_once hstep
    exact ⟨rel_insert_of_ne h.title (by decide) v, rel_insert_of_ne h.description (by decide) v,
      rel_insert_of_ne h.channelTitle (by decide) v,
      rel_insert_self (Json.entriesOf_fits readThumbnail_fits ha hv),
      h.extra.insert_declared (by decide) v⟩
  · -- a field of no declared name is kept
    next htitle hdescription hchannel hthumbnails =>
    obtain ⟨a, ha, hstep⟩ := exists_of_bind_eq_ok hstep
    cases hstep
    obtain rfl : a = v := Except.ok.inj (ha.symm.trans hv)
    have hname := Snippet.notMem_names htitle hdescription hchannel hthumbnails
    exact ⟨rel_insert_of_ne h.title (Ne.symm htitle) a,
      rel_insert_of_ne h.description (Ne.symm hdescription) a,
      rel_insert_of_ne h.channelTitle (Ne.symm hchannel) a,
      rel_insert_of_ne h.thumbnails (Ne.symm hthumbnails) a, h.extra.insert hname a⟩

theorem isSound_step (h : draft.finish.IsSound)
    (hstep : draft.step room name node = .ok draft') : draft'.finish.IsSound := by
  rw [SnippetDraft.step.eq_def] at hstep
  split at hstep
  · obtain ⟨-, a, -, rfl⟩ := of_once hstep
    exact ⟨h.isOrdered, h.thumbnails, h.extra⟩
  · obtain ⟨-, a, -, rfl⟩ := of_once hstep
    exact ⟨h.isOrdered, h.thumbnails, h.extra⟩
  · obtain ⟨-, a, -, rfl⟩ := of_once hstep
    exact ⟨h.isOrdered, h.thumbnails, h.extra⟩
  · obtain ⟨-, a, ha, rfl⟩ := of_once hstep
    obtain ⟨hordered, heach⟩ := Json.entriesOf_yields readThumbnail_yields ha
    exact ⟨hordered, heach, h.extra⟩
  · next htitle hdescription hchannel hthumbnails =>
    obtain ⟨a, ha, hstep⟩ := exists_of_bind_eq_ok hstep
    cases hstep
    have hname := Snippet.notMem_names htitle hdescription hchannel hthumbnails
    exact ⟨h.isOrdered, h.thumbnails, h.extra.insert hname (Json.isOrdered_of_anyValue ha)⟩

end SnippetDraft

theorem readSnippet_eq_ok {room : Nat} {node : Node} {s : Snippet}
    (h : readSnippet room node = .ok s) : ∃ fields stop draft, node = .object fields stop ∧
      Json.foldFields (SnippetDraft.step (room - 1)) {} fields stop = .ok draft ∧
        draft.finish = s := by
  cases node with
  | object fields stop =>
    obtain ⟨_, -, h⟩ := exists_of_bind_eq_ok h
    obtain ⟨draft, hdraft, h⟩ := exists_of_bind_eq_ok h
    exact ⟨fields, stop, draft, rfl, hdraft, Except.ok.inj h⟩
  | _ => exact absurd h Json.Node.reject_ne_ok

theorem readSnippet_yields : Reader.Yields readSnippet Snippet.IsSound := by
  intro room node s h
  obtain ⟨fields, stop, draft, rfl, hdraft, rfl⟩ := readSnippet_eq_ok h
  refine Json.foldFields_keeps (P := fun d : SnippetDraft => d.finish.IsSound)
    SnippetDraft.isSound_step hdraft ?_
  exact ⟨Entries.isOrdered_nil, (fun _ _ h => nomatch h), isExtra_nil Snippet.names⟩

theorem readSnippet_fits : Reader.Fits readSnippet (FitsObject Snippet.Fits) := by
  intro room node s v h hv
  obtain ⟨fields, stop, draft, rfl, hdraft, rfl⟩ := readSnippet_eq_ok h
  obtain ⟨values, rfl, hvalues⟩ := Json.anyValue_object_eq_ok hv
  exact ⟨values, rfl, (Json.foldFields_fits (R := SnippetDraft.Fits) SnippetDraft.Fits.step
    hdraft hvalues SnippetDraft.fits_empty).finish⟩

/-! ### Reading technical details -/

namespace DetailsDraft

/-- Whether the slots of a draft are filled from some fields. -/
structure Fits (draft : DetailsDraft) (fields : Entries Json) : Prop where
  duration : Option.Rel (fun s v => v = .text s) draft.duration (fields.get? "duration")
  extra : IsRest Details.names draft.extra fields

/-- What a draft comes to. -/
def finish (draft : DetailsDraft) : Details := ⟨draft.duration.getD "", draft.extra⟩

variable {draft draft' : DetailsDraft} {room : Nat} {name : String} {node : Node}

theorem fits_empty : Fits {} [] := ⟨.none, isRest_nil Details.names⟩

theorem Fits.finish {fields : Entries Json} (h : draft.Fits fields) :
    draft.finish.Fits fields :=
  ⟨getD_of_rel h.duration rfl, h.extra⟩

theorem Fits.step {done : Entries Json} {v : Json} (h : draft.Fits done)
    (hstep : draft.step room name node = .ok draft') (hv : Json.anyValue room node = .ok v) :
    draft'.Fits (done.insert name v) := by
  rw [DetailsDraft.step.eq_def] at hstep
  split at hstep
  · obtain ⟨-, a, ha, rfl⟩ := of_once hstep
    exact ⟨rel_insert_self (Json.string_fits ha hv), h.extra.insert_declared (by decide) v⟩
  · next hduration =>
    obtain ⟨a, ha, hstep⟩ := exists_of_bind_eq_ok hstep
    cases hstep
    obtain rfl : a = v := Except.ok.inj (ha.symm.trans hv)
    exact ⟨rel_insert_of_ne h.duration (Ne.symm hduration) a,
      h.extra.insert (Details.notMem_names hduration) a⟩

theorem isSound_step (h : draft.finish.IsSound)
    (hstep : draft.step room name node = .ok draft') : draft'.finish.IsSound := by
  rw [DetailsDraft.step.eq_def] at hstep
  split at hstep
  · obtain ⟨-, a, -, rfl⟩ := of_once hstep
    exact h
  · next hduration =>
    obtain ⟨a, ha, hstep⟩ := exists_of_bind_eq_ok hstep
    cases hstep
    exact IsExtra.insert h (Details.notMem_names hduration) (Json.isOrdered_of_anyValue ha)

end DetailsDraft

theorem readDetails_eq_ok {room : Nat} {node : Node} {d : Details}
    (h : readDetails room node = .ok d) : ∃ fields stop draft, node = .object fields stop ∧
      Json.foldFields (DetailsDraft.step (room - 1)) {} fields stop = .ok draft ∧
        draft.finish = d := by
  cases node with
  | object fields stop =>
    obtain ⟨_, -, h⟩ := exists_of_bind_eq_ok h
    obtain ⟨draft, hdraft, h⟩ := exists_of_bind_eq_ok h
    exact ⟨fields, stop, draft, rfl, hdraft, Except.ok.inj h⟩
  | _ => exact absurd h Json.Node.reject_ne_ok

theorem readDetails_yields : Reader.Yields readDetails Details.IsSound := by
  intro room node d h
  obtain ⟨fields, stop, draft, rfl, hdraft, rfl⟩ := readDetails_eq_ok h
  exact Json.foldFields_keeps (P := fun d : DetailsDraft => d.finish.IsSound)
    DetailsDraft.isSound_step hdraft (isExtra_nil Details.names)

theorem readDetails_fits : Reader.Fits readDetails (FitsObject Details.Fits) := by
  intro room node d v h hv
  obtain ⟨fields, stop, draft, rfl, hdraft, rfl⟩ := readDetails_eq_ok h
  obtain ⟨values, rfl, hvalues⟩ := Json.anyValue_object_eq_ok hv
  exact ⟨values, rfl, (Json.foldFields_fits (R := DetailsDraft.Fits) DetailsDraft.Fits.step
    hdraft hvalues DetailsDraft.fits_empty).finish⟩

/-! ### Reading items -/

namespace ItemDraft

/-- Whether the slots of a draft are filled from some fields. -/
structure Fits (draft : ItemDraft) (fields : Entries Json) : Prop where
  id : Option.Rel (fun s v => v = .text s) draft.id (fields.get? "id")
  snippet : Option.Rel (FitsOptional (FitsObject Snippet.Fits)) draft.snippet
    (fields.get? "snippet")
  details : Option.Rel (FitsOptional (FitsObject Details.Fits)) draft.details
    (fields.get? "contentDetails")
  extra : IsRest Item.names draft.extra fields

/-- What a draft comes to, with the identifier that it needs. -/
def finish (draft : ItemDraft) (id : String) : Item :=
  ⟨id, draft.snippet.getD none, draft.details.getD none, draft.extra⟩

variable {draft draft' : ItemDraft} {room : Nat} {name id : String} {node : Node}

theorem fits_empty : Fits {} [] := ⟨.none, .none, .none, isRest_nil Item.names⟩

theorem Fits.finish {fields : Entries Json} (h : draft.Fits fields) (hid : draft.id = some id) :
    (draft.finish id).Fits fields := by
  refine ⟨?_, getD_of_rel h.snippet rfl, getD_of_rel h.details rfl, h.extra⟩
  obtain ⟨v, hv, rfl⟩ := exists_of_rel h.id hid
  exact hv

theorem Fits.step {done : Entries Json} {v : Json} (h : draft.Fits done)
    (hstep : draft.step room name node = .ok draft') (hv : Json.anyValue room node = .ok v) :
    draft'.Fits (done.insert name v) := by
  rw [ItemDraft.step.eq_def] at hstep
  split at hstep
  · obtain ⟨-, a, ha, rfl⟩ := of_once hstep
    exact ⟨rel_insert_self (Json.string_fits ha hv), rel_insert_of_ne h.snippet (by decide) v,
      rel_insert_of_ne h.details (by decide) v, h.extra.insert_declared (by decide) v⟩
  · obtain ⟨-, a, ha, rfl⟩ := of_once hstep
    exact ⟨rel_insert_of_ne h.id (by decide) v,
      rel_insert_self (Json.optional_fits readSnippet_fits ha hv),
      rel_insert_of_ne h.details (by decide) v, h.extra.insert_declared (by decide) v⟩
  · obtain ⟨-, a, ha, rfl⟩ := of_once hstep
    exact ⟨rel_insert_of_ne h.id (by decide) v, rel_insert_of_ne h.snippet (by decide) v,
      rel_insert_self (Json.optional_fits readDetails_fits ha hv),
      h.extra.insert_declared (by decide) v⟩
  · -- a field of no declared name is kept
    next hid hsnippet hdetails =>
    obtain ⟨a, ha, hstep⟩ := exists_of_bind_eq_ok hstep
    cases hstep
    obtain rfl : a = v := Except.ok.inj (ha.symm.trans hv)
    exact ⟨rel_insert_of_ne h.id (Ne.symm hid) a, rel_insert_of_ne h.snippet (Ne.symm hsnippet) a,
      rel_insert_of_ne h.details (Ne.symm hdetails) a,
      h.extra.insert (Item.notMem_names hid hsnippet hdetails) a⟩

theorem isSound_step (h : (draft.finish id).IsSound)
    (hstep : draft.step room name node = .ok draft') : (draft'.finish id).IsSound := by
  rw [ItemDraft.step.eq_def] at hstep
  split at hstep
  · obtain ⟨-, a, -, rfl⟩ := of_once hstep
    exact ⟨h.snippet, h.details, h.extra⟩
  · obtain ⟨-, a, ha, rfl⟩ := of_once hstep
    exact ⟨Json.optional_yields readSnippet_yields ha, h.details, h.extra⟩
  · obtain ⟨-, a, ha, rfl⟩ := of_once hstep
    exact ⟨h.snippet, Json.optional_yields readDetails_yields ha, h.extra⟩
  · next hid hsnippet hdetails =>
    obtain ⟨a, ha, hstep⟩ := exists_of_bind_eq_ok hstep
    cases hstep
    exact ⟨h.snippet, h.details, h.extra.insert (Item.notMem_names hid hsnippet hdetails)
      (Json.isOrdered_of_anyValue ha)⟩

end ItemDraft

theorem readItem_eq_ok {room : Nat} {node : Node} {item : Item}
    (h : readItem room node = .ok item) : ∃ fields stop draft id, node = .object fields stop ∧
      Json.foldFields (ItemDraft.step (room - 1)) {} fields stop = .ok draft ∧
        draft.id = some id ∧ draft.finish id = item := by
  cases node with
  | object fields stop =>
    obtain ⟨_, -, h⟩ := exists_of_bind_eq_ok h
    obtain ⟨draft, hdraft, h⟩ := exists_of_bind_eq_ok h
    obtain ⟨id, hid, h⟩ := exists_of_bind_eq_ok h
    exact ⟨fields, stop, draft, id, rfl, hdraft, required_eq_ok hid, Except.ok.inj h⟩
  | _ => exact absurd h Json.Node.reject_ne_ok

/-- What is read as an item is sound. -/
theorem readItem_yields : Reader.Yields readItem Item.IsSound := by
  intro room node item h
  -- each step keeps what the draft would be finished to sound, whatever identifier it gets
  obtain ⟨fields, stop, draft, id, rfl, hdraft, -, rfl⟩ := readItem_eq_ok h
  exact Json.foldFields_keeps (P := fun d : ItemDraft => (d.finish id).IsSound)
    ItemDraft.isSound_step hdraft
    ⟨(fun _ h => nomatch h), (fun _ h => nomatch h), isExtra_nil Item.names⟩

/-- An item fits the value of the node that it was read from. -/
theorem readItem_fits : Reader.Fits readItem (FitsObject Item.Fits) := by
  intro room node item v h hv
  obtain ⟨fields, stop, draft, id, rfl, hdraft, hid, rfl⟩ := readItem_eq_ok h
  obtain ⟨values, rfl, hvalues⟩ := Json.anyValue_object_eq_ok hv
  exact ⟨values, rfl, (Json.foldFields_fits (R := ItemDraft.Fits) ItemDraft.Fits.step
    hdraft hvalues ItemDraft.fits_empty).finish hid⟩

end VideoPosters.Video
