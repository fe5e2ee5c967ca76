import VideoPosters.Proofs.Json.Readers
import VideoPosters.Video

/-!
# Fields of records, and preview images

The metadata of a video is read field by field into slots, each of which is filled once;
what is not declared is kept or skipped.  This file says what filling a slot does, and what
is read of a preview image: it fits the value that it was read from, which determines it.

## Main definitions

* `IsRest`, `IsExtra` — the fields beside the declared ones.
* `Thumbnail.Fits`, `Thumbnail.FitsValue` — whether a preview image says what some fields, or
  a value, say.
* `Thumbnail.IsSound` — whether a preview image could have been read.

## Main results

* `of_once` — a slot is filled from a value, and only if it was empty.
* `readThumbnail_fits`, `readThumbnail_yields` — what is read fits its value, and is sound.
* `Thumbnail.eq_of_fitsValue` — **a preview image is determined by the value that it fits.**
-/

namespace VideoPosters.Video

open Json (Node ReadError Reader Break FitsOptional)

/-! ### Slots -/

section

variable {α σ : Type} {name other : String} {slot : Option α} {value : Except ReadError α}
  {R : α → Json → Prop} {fields : Entries Json} {v : Json}

/-- A slot is filled from a value, and only if it was empty. -/
theorem of_once {f : Option α → σ} {s' : σ}
    (h : (do return f (← once name slot value)) = Except.ok s') :
    slot = none ∧ ∃ a, value = .ok a ∧ s' = f (some a) := by
  obtain ⟨filled, hfilled, h⟩ := exists_of_bind_eq_ok h
  cases h
  -- a slot that is filled already refuses the field
  cases slot with
  | some _ => cases hfilled
  | none =>
    obtain ⟨a, ha, rfl⟩ := exists_of_map_eq_ok hfilled
    exact ⟨rfl, a, ha, rfl⟩

theorem once_of_none {a : α} (hslot : slot = none) (hvalue : value = .ok a) :
    once name slot value = .ok (some a) := by
  rw [hslot, hvalue]
  rfl

theorem rel_insert_self {a : α} (h : R a v) :
    Option.Rel R (some a) ((fields.insert name v).get? name) := by
  rw [Entries.get?_insert_self]
  exact .some h

theorem rel_insert_of_ne (h : Option.Rel R slot (fields.get? other)) (hne : other ≠ name)
    (v : Json) : Option.Rel R slot ((fields.insert name v).get? other) := by
  rw [Entries.get?_insert_of_ne hne]
  exact h

/-- A slot is empty as long as its field has not come. -/
theorem eq_none_of_rel (h : Option.Rel R slot (fields.get? name))
    (hnone : fields.get? name = none) : slot = none := by
  rw [hnone] at h
  cases h
  rfl

/-- A slot is filled from a field. -/
theorem exists_of_rel {a : α} (h : Option.Rel R slot (fields.get? name)) (hslot : slot = some a) :
    ∃ v, fields.get? name = some v ∧ R a v := by
  generalize fields.get? name = value? at h ⊢
  rw [hslot] at h
  cases h with
  | some h => exact ⟨_, rfl, h⟩

/-- A field that has come has filled its slot. -/
theorem exists_slot_of_rel (h : Option.Rel R slot (fields.get? name))
    (hv : fields.get? name = some v) : ∃ a, slot = some a ∧ R a v := by
  rw [hv] at h
  cases h with
  | some h => exact ⟨_, rfl, h⟩

/-- What stands in for an empty slot fits what stands in for its field. -/
theorem getD_of_rel {a : α} (h : Option.Rel R slot (fields.get? name)) (hdefault : R a v) :
    R (slot.getD a) ((fields.get? name).getD v) := by
  generalize fields.get? name = value? at h ⊢
  cases h with
  | some h => exact h
  | none => exact hdefault

end

/-! ### The fields beside the declared ones -/

section

variable {names : List String} {extra fields : Entries Json} {name : String} {v : Json}

/-- Whether some entries are the fields beside those of some names. -/
def IsRest (names : List String) (extra fields : Entries Json) : Prop :=
  ∀ name, extra.get? name = if name ∈ names then none else fields.get? name

theorem isRest_nil (names : List String) : IsRest names [] [] := by
  intro name
  rw [Entries.get?_nil, ite_self]

theorem IsRest.insert_declared (h : IsRest names extra fields) (hname : name ∈ names)
    (v : Json) : IsRest names extra (fields.insert name v) := by
  intro other
  rw [h other]
  split
  · rfl
  · next hother =>
    have hne : other ≠ name := fun heq => hother (heq ▸ hname)
    rw [Entries.get?_insert_of_ne hne]

theorem IsRest.insert (h : IsRest names extra fields) (hname : name ∉ names) (v : Json) :
    IsRest names (extra.insert name v) (fields.insert name v) := by
  intro other
  rw [Entries.get?_insert, Entries.get?_insert, h other]
  by_cases heq : other = name
  · rw [if_pos heq, if_pos heq, if_neg (heq ▸ hname)]
  · rw [if_neg heq, if_neg heq]

/-- Whether some entries could be the fields beside those of some names: they are in order,
and none of them has one of the names. -/
structure IsExtra (names : List String) (extra : Entries Json) : Prop where
  isOrdered : Json.IsOrdered (.object extra)
  undeclared : ∀ name ∈ names, extra.get? name = none

theorem isExtra_nil (names : List String) : IsExtra names [] :=
  ⟨Json.isOrdered_emptyObject, fun _ _ => rfl⟩

theorem IsExtra.entries (h : IsExtra names extra) : extra.IsOrdered := by
  obtain ⟨hordered, -⟩ := h
  cases hordered with
  | object hfields _ => exact hfields

theorem IsExtra.insert (h : IsExtra names extra) (hname : name ∉ names) (hv : v.IsOrdered) :
    IsExtra names (extra.insert name v) := by
  refine ⟨h.isOrdered.insert name hv, fun other hother => ?_⟩
  have hne : other ≠ name := fun heq => hname (heq ▸ hother)
  rw [Entries.get?_insert_of_ne hne, h.undeclared other hother]

/-- The fields beside the declared ones are determined by the fields. -/
theorem IsRest.eq {extra' : Entries Json} (h : IsRest names extra fields)
    (h' : IsRest names extra' fields) (hextra : IsExtra names extra)
    (hextra' : IsExtra names extra') : extra = extra' :=
  hextra.entries.ext hextra'.entries fun name => (h name).trans (h' name).symm

end

/-! ### Thumbnails -/

theorem numberOrNull_inj {a b : Option Nat} : numberOrNull a = numberOrNull b ↔ a = b := by
  cases a with
  | none => cases b <;> simp [numberOrNull]
  | some m =>
    cases b with
    | none => simp [numberOrNull]
    | some n =>
      simp only [numberOrNull, Json.int.injEq, Option.some.injEq]
      omega

/-- Reading a number that may be absent. -/
theorem optionalWord32_fits :
    Reader.Fits (Json.optional Json.word32) fun n v => v = numberOrNull n := by
  intro room node n v hn hv
  have hfits := Json.optional_fits Json.word32_fits hn hv
  cases n with
  | none => exact hfits
  | some n => exact hfits

namespace Thumbnail

/-- Whether a preview image says what some fields say; a field that is missing says what null
says. -/
structure Fits (t : Thumbnail) (fields : Entries Json) : Prop where
  url : fields.get? "url" = some (.text t.url)
  width : (fields.get? "width").getD .null = numberOrNull t.width
  height : (fields.get? "height").getD .null = numberOrNull t.height

/-- Whether a preview image says what a value says: an object, or an array of all three. -/
inductive FitsValue (t : Thumbnail) : Json → Prop where
  | object {fields : Entries Json} (h : t.Fits fields) : FitsValue t (.object fields)
  | array : FitsValue t (.array [.text t.url, numberOrNull t.width, numberOrNull t.height])

theorem eq_of_fits {t t' : Thumbnail} {fields : Entries Json} (h : t.Fits fields)
    (h' : t'.Fits fields) : t = t' := by
  obtain ⟨url, width, height⟩ := t
  obtain ⟨url', width', height'⟩ := t'
  obtain rfl : url = url' := by
    have hurl := h.url.symm.trans h'.url
    injection hurl with hurl
    injection hurl
  obtain rfl : width = width' := numberOrNull_inj.1 (h.width.symm.trans h'.width)
  obtain rfl : height = height' := numberOrNull_inj.1 (h.height.symm.trans h'.height)
  rfl

theorem eq_of_fitsValue {t t' : Thumbnail} {v : Json} (h : t.FitsValue v)
    (h' : t'.FitsValue v) : t = t' := by
  cases h with
  | object h =>
    cases h' with
    | object h' => exact eq_of_fits h h'
  | array =>
    -- an image written as an array has its three parts as the places
    generalize hv : Json.array _ = v at h'
    cases h' with
    | object => cases hv
    | array =>
      obtain ⟨url, width, height⟩ := t
      obtain ⟨url', width', height'⟩ := t'
      simp only [Json.array.injEq, List.cons.injEq, Json.text.injEq, numberOrNull_inj,
        and_true] at hv
      rw [Thumbnail.mk.injEq]
      exact hv

/-- Whether a preview image could have been read: its measures are numbers of 32 bits. -/
structure IsSound (t : Thumbnail) : Prop where
  width : ∀ n, t.width = some n → n < Nat.pow 2 32
  height : ∀ n, t.height = some n → n < Nat.pow 2 32

end Thumbnail

namespace ThumbnailDraft

/-- Whether the slots of a draft are filled from some fields. -/
structure Fits (draft : ThumbnailDraft) (fields : Entries Json) : Prop where
  url : Option.Rel (fun s v => v = .text s) draft.url (fields.get? "url")
  width : Option.Rel (fun n v => v = numberOrNull n) draft.width (fields.get? "width")
  height : Option.Rel (fun n v => v = numberOrNull n) draft.height (fields.get? "height")

variable {draft draft' : ThumbnailDraft} {room : Nat} {name : String} {node : Node}

theorem fits_empty : Fits {} [] := ⟨.none, .none, .none⟩

theorem Fits.step {done : Entries Json} {v : Json} (h : draft.Fits done)
    (hstep : draft.step room name node = .ok draft') (hv : Json.anyValue room node = .ok v) :
    draft'.Fits (done.insert name v) := by
  rw [ThumbnailDraft.step.eq_def] at hstep
  split at hstep
  · obtain ⟨-, a, ha, rfl⟩ := of_once hstep
    exact ⟨rel_insert_self (Json.string_fits ha hv), rel_insert_of_ne h.width (by decide) v,
      rel_insert_of_ne h.height (by decide) v⟩
  · obtain ⟨-, a, ha, rfl⟩ := of_once hstep
    exact ⟨rel_insert_of_ne h.url (by decide) v, rel_insert_self (optionalWord32_fits ha hv),
      rel_insert_of_ne h.height (by decide) v⟩
  · obtain ⟨-, a, ha, rfl⟩ := of_once hstep
    exact ⟨rel_insert_of_ne h.url (by decide) v, rel_insert_of_ne h.width (by decide) v,
      rel_insert_self (optionalWord32_fits ha hv)⟩
  · -- any other field is skipped
    next hurl hwidth hheight =>
    obtain ⟨_, -, hstep⟩ := exists_of_bind_eq_ok hstep
    cases hstep
    exact ⟨rel_insert_of_ne h.url (Ne.symm hurl) v, rel_insert_of_ne h.width (Ne.symm hwidth) v,
      rel_insert_of_ne h.height (Ne.symm hheight) v⟩

/-- What a draft comes to, as far as it can be unsound. -/
def measures (draft : ThumbnailDraft) : Thumbnail :=
  ⟨"", draft.width.getD none, draft.height.getD none⟩

theorem isSound_step (h : draft.measures.IsSound)
    (hstep : draft.step room name node = .ok draft') : draft'.measures.IsSound := by
  rw [ThumbnailDraft.step.eq_def] at hstep
  split at hstep
  · obtain ⟨-, a, -, rfl⟩ := of_once hstep
    exact h
  · obtain ⟨-, a, ha, rfl⟩ := of_once hstep
    exact ⟨Json.optional_yields Json.word32_yields ha, h.height⟩
  · obtain ⟨-, a, ha, rfl⟩ := of_once hstep
    exact ⟨h.width, Json.optional_yields Json.word32_yields ha⟩
  · obtain ⟨_, -, hstep⟩ := exists_of_bind_eq_ok hstep
    cases hstep
    exact h

end ThumbnailDraft

theorem required_eq_ok {α : Type} {name : String} {slot : Option α} {a : α}
    (h : required name slot = .ok a) : slot = some a := by
  cases slot with
  | none => cases h
  | some b => exact congrArg some (Except.ok.inj h)

/-- The next place of an array is read from its next item. -/
theorem thumbnailPlace_eq_ok {α : Type} {read : Node → Except ReadError α} {place : Nat}
    {items rest : List Node} {stop : Option Break} {a : α}
    (h : thumbnailPlace read place items stop = .ok (a, rest)) :
    ∃ node, items = node :: rest ∧ read node = .ok a := by
  obtain ⟨next, hnext, h⟩ := exists_of_bind_eq_ok h
  cases items with
  | nil =>
    obtain ⟨_, -, hnext⟩ := exists_of_bind_eq_ok hnext
    cases hnext
    cases h
  | cons node items =>
    cases hnext
    obtain ⟨b, hb, h⟩ := exists_of_bind_eq_ok h
    cases h
    exact ⟨node, rfl, hb⟩

/-- A preview image given as an array is read from its three items. -/
theorem readThumbnail_array {room : Nat} {items : List Node} {stop : Option Break}
    {t : Thumbnail} (h : readThumbnail room (.array items stop) = .ok t) :
    ∃ url width height, items = [url, width, height] ∧
      Json.string (room - 1) url = .ok t.url ∧
      Json.optional Json.word32 (room - 1) width = .ok t.width ∧
      Json.optional Json.word32 (room - 1) height = .ok t.height := by
  obtain ⟨_, -, h⟩ := exists_of_bind_eq_ok h
  obtain ⟨⟨a, items₁⟩, ha, h⟩ := exists_of_bind_eq_ok h
  obtain ⟨⟨b, items₂⟩, hb, h⟩ := exists_of_bind_eq_ok h
  obtain ⟨⟨c, items₃⟩, hc, h⟩ := exists_of_bind_eq_ok h
  obtain ⟨_, hend, h⟩ := exists_of_bind_eq_ok h
  cases h
  obtain ⟨url, rfl, hurl⟩ := thumbnailPlace_eq_ok ha
  obtain ⟨width, rfl, hwidth⟩ := thumbnailPlace_eq_ok hb
  obtain ⟨height, rfl, hheight⟩ := thumbnailPlace_eq_ok hc
  -- an array of more than three items is refused
  cases items₃ with
  | nil => exact ⟨url, width, height, rfl, hurl, hwidth, hheight⟩
  | cons _ _ => cases hend

theorem readThumbnail_yields : Reader.Yields readThumbnail Thumbnail.IsSound := by
  intro room node t h
  cases node with
  | object fields stop =>
    obtain ⟨_, -, h⟩ := exists_of_bind_eq_ok h
    obtain ⟨draft, hdraft, h⟩ := exists_of_bind_eq_ok h
    obtain ⟨url, -, h⟩ := exists_of_bind_eq_ok h
    cases h
    have hsound := Json.foldFields_keeps (P := fun d : ThumbnailDraft => d.measures.IsSound)
      ThumbnailDraft.isSound_step hdraft
      ⟨(fun _ h => nomatch h), (fun _ h => nomatch h)⟩
    exact ⟨hsound.width, hsound.height⟩
  | array items stop =>
    -- the parts of an array are read at its places, those of an object by their names
    obtain ⟨url, width, height, -, -, hwidth, hheight⟩ := readThumbnail_array h
    exact ⟨Json.optional_yields Json.word32_yields hwidth,
      Json.optional_yields Json.word32_yields hheight⟩
  | _ => exact absurd h Json.Node.reject_ne_ok

theorem readThumbnail_fits : Reader.Fits readThumbnail Thumbnail.FitsValue := by
  intro room node t v h hv
  cases node with
  | object fields stop =>
    obtain ⟨_, -, h⟩ := exists_of_bind_eq_ok h
    obtain ⟨draft, hdraft, h⟩ := exists_of_bind_eq_ok h
    obtain ⟨url, hurl, h⟩ := exists_of_bind_eq_ok h
    cases h
    obtain ⟨values, rfl, hvalues⟩ := Json.anyValue_object_eq_ok hv
    have hfits := Json.foldFields_fits (R := ThumbnailDraft.Fits) ThumbnailDraft.Fits.step hdraft
      hvalues ThumbnailDraft.fits_empty
    refine .object ⟨?_, getD_of_rel hfits.width rfl, getD_of_rel hfits.height rfl⟩
    obtain ⟨w, hw, rfl⟩ := exists_of_rel hfits.url (required_eq_ok hurl)
    exact hw
  | array items stop =>
    obtain ⟨url, width, height, rfl, hurl, hwidth, hheight⟩ := readThumbnail_array h
    obtain ⟨values, rfl, hvalues⟩ := Json.anyValue_array_eq_ok hv
    obtain ⟨a, rest, rfl, ha, hrest⟩ := Json.anyItems_cons_eq_ok hvalues
    obtain ⟨b, rest, rfl, hb, hrest⟩ := Json.anyItems_cons_eq_ok hrest
    obtain ⟨c, rest, rfl, hc, hrest⟩ := Json.anyItems_cons_eq_ok hrest
    rw [Json.anyItems_nil_eq_ok hrest]
    rw [Json.string_fits hurl ha, optionalWord32_fits hwidth hb, optionalWord32_fits hheight hc]
    exact .array
  | _ => exact absurd h Json.Node.reject_ne_ok

end VideoPosters.Video
