import Mathlib.Data.List.Nodup
import Mathlib.Data.String.Basic
import VideoPosters.Json.Entries

/-!
# Entries in order

Entries are in order if their names ascend, so that each name stands once.  Setting entries
keeps them in order, and entries in order are determined by what is found under each name:
whoever sets the same entries comes to the same list, in whatever order he sets them.

## Main definitions

* `Entries.IsOrdered` — whether the names ascend.

## Main results

* `Entries.IsOrdered.insert`, `Entries.IsOrdered.insertAll` — setting entries keeps the order.
* `Entries.get?_insertAll` — what is found after all entries of a list are set.
* `Entries.get?_insertAll_eq_getLast?` — of several assignments to one name the last counts.
* `Entries.IsOrdered.ext` — **what is found under each name determines the entries.**
-/

namespace VideoPosters.Entries

variable {α β : Type} {name other : String} {value : α} {entries others : Entries α}

/-- Whether the names ascend, so that each stands once. -/
def IsOrdered (entries : Entries α) : Prop := entries.Pairwise fun a b => a.1 < b.1

theorem isOrdered_nil : IsOrdered ([] : Entries α) := List.Pairwise.nil

theorem isOrdered_cons_iff {entry : String × α} :
    IsOrdered (entry :: entries) ↔ (∀ later ∈ entries, entry.1 < later.1) ∧ entries.IsOrdered :=
  List.pairwise_cons

/-! ### Setting an entry -/

/-- What is there after setting an entry was there before, or it is that entry. -/
theorem mem_insert {entry : String × α} (h : entry ∈ insert name value entries) :
    entry = (name, value) ∨ entry ∈ entries := by
  induction entries with
  | nil => exact .inl (List.mem_singleton.1 h)
  | cons first rest ih =>
    obtain ⟨n, v⟩ := first
    rw [insert] at h
    split at h
    · exact List.mem_cons.1 h
    · split at h
      · exact (List.mem_cons.1 h).imp_right (List.mem_cons_of_mem _)
      · rcases List.mem_cons.1 h with rfl | hrest
        · exact .inr List.mem_cons_self
        · exact (ih hrest).imp_right (List.mem_cons_of_mem _)

theorem IsOrdered.insert (h : entries.IsOrdered) (name : String) (value : α) :
    (insert name value entries).IsOrdered := by
  induction entries with
  | nil => exact List.pairwise_singleton _ _
  | cons first rest ih =>
    obtain ⟨n, v⟩ := first
    obtain ⟨hfirst, hrest⟩ := isOrdered_cons_iff.1 h
    rw [Entries.insert]
    split
    · next hlt =>
      refine isOrdered_cons_iff.2 ⟨fun later hlater => ?_, h⟩
      rcases List.mem_cons.1 hlater with rfl | hlater
      · exact hlt
      · exact hlt.trans (hfirst later hlater)
    · next hlt =>
      split
      · next heq => exact isOrdered_cons_iff.2 ⟨heq ▸ hfirst, hrest⟩
      · next hne =>
        have hgt : n < name := lt_of_le_of_ne (not_lt.1 hlt) (Ne.symm hne)
        refine isOrdered_cons_iff.2 ⟨fun later hlater => ?_, ih hrest⟩
        rcases mem_insert hlater with rfl | hlater
        · exact hgt
        · exact hfirst later hlater

/-- What is found after an entry is set. -/
theorem get?_insert (name other : String) (value : α) (entries : Entries α) :
    get? other (insert name value entries) =
      if other = name then some value else get? other entries := by
  split
  · next h => rw [h, get?_insert_self]
  · next h => exact get?_insert_of_ne h value entries

/-! ### Looking entries up -/

theorem mem_of_get? (h : get? name entries = some value) : (name, value) ∈ entries := by
  induction entries with
  | nil => cases h
  | cons first rest ih =>
    obtain ⟨n, v⟩ := first
    rw [get?] at h
    split at h
    · next heq =>
      cases h
      rw [heq]
      exact List.mem_cons_self
    · exact List.mem_cons_of_mem _ (ih h)

theorem get?_of_forall_lt (h : ∀ entry ∈ entries, name < entry.1) : get? name entries = none := by
  rw [Option.eq_none_iff_forall_ne_some]
  intro value hvalue
  exact lt_irrefl _ (h _ (mem_of_get? hvalue))

/-- What stands in entries that are in order is found. -/
theorem IsOrdered.mem_iff (h : entries.IsOrdered) :
    (name, value) ∈ entries ↔ get? name entries = some value := by
  refine ⟨fun hmem => ?_, mem_of_get?⟩
  induction entries with
  | nil => cases hmem
  | cons first rest ih =>
    obtain ⟨hfirst, hrest⟩ := isOrdered_cons_iff.1 h
    rcases List.mem_cons.1 hmem with rfl | hmem
    · exact if_pos rfl
    · rw [get?, if_neg (hfirst _ hmem).ne, ih hrest hmem]

theorem IsOrdered.nodup (h : entries.IsOrdered) : entries.Nodup := by
  refine List.Pairwise.imp ?_ h
  rintro a b hlt rfl
  exact lt_irrefl _ hlt

/-- **What is found under each name determines entries that are in order.** -/
theorem IsOrdered.ext (h : entries.IsOrdered) (h' : others.IsOrdered)
    (hsame : ∀ name, get? name entries = get? name others) : entries = others := by
  have hperm : entries.Perm others := by
    rw [List.perm_ext_iff_of_nodup h.nodup h'.nodup]
    intro entry
    rw [h.mem_iff, h'.mem_iff, hsame]
  exact hperm.eq_of_pairwise (fun a b _ _ hab hba => absurd hab (lt_asymm hba)) h h'

/-- Setting an entry that is there already changes nothing. -/
theorem IsOrdered.insert_eq_self (h : entries.IsOrdered) (hvalue : get? name entries = some value) :
    Entries.insert name value entries = entries := by
  refine (h.insert name value).ext h fun other => ?_
  rw [get?_insert]
  split
  · next heq => rw [heq, hvalue]
  · rfl

/-! ### Setting many entries -/

theorem IsOrdered.insertAll (h : entries.IsOrdered) (more : List (String × α)) :
    (insertAll entries more).IsOrdered := by
  induction more generalizing entries with
  | nil => exact h
  | cons entry more ih => exact ih (h.insert entry.1 entry.2)

theorem isOrdered_ofList (more : List (String × α)) : (ofList more).IsOrdered :=
  isOrdered_nil.insertAll more

/-- What is found after entries that are in order were set: theirs come first. -/
theorem get?_insertAll {more : Entries α} (h : more.IsOrdered) (name : String)
    (entries : Entries α) : get? name (insertAll entries more) =
      (get? name more).or (get? name entries) := by
  induction more generalizing entries with
  | nil => rfl
  | cons entry more ih =>
    obtain ⟨n, v⟩ := entry
    obtain ⟨hfirst, hmore⟩ := isOrdered_cons_iff.1 h
    rw [insertAll_cons, ih hmore, get?_insert, get?]
    by_cases heq : name = n
    · -- no later entry has the name of the first
      rw [if_pos heq, if_pos heq.symm, heq, get?_of_forall_lt hfirst]
      rfl
    · rw [if_neg heq, if_neg (Ne.symm heq)]

/-- Setting entries leaves alone what has another name. -/
theorem get?_insertAll_of_notMem {more : List (String × α)} (h : name ∉ more.map Prod.fst)
    (entries : Entries α) : get? name (insertAll entries more) = get? name entries := by
  induction more generalizing entries with
  | nil => rfl
  | cons entry more ih =>
    rw [List.map_cons, List.mem_cons, not_or] at h
    exact (ih h.2 _).trans (get?_insert_of_ne h.1 entry.2 entries)

/-- Of several assignments to one name the last counts. -/
theorem get?_insertAll_eq_getLast? (name : String) (more : List (String × α))
    (entries : Entries α) : get? name (insertAll entries more) =
      ((more.filter (·.1 = name)).getLast?.map (·.2)).or (get? name entries) := by
  induction more generalizing entries with
  | nil => rfl
  | cons entry more ih =>
    obtain ⟨n, v⟩ := entry
    rw [insertAll_cons, ih, get?_insert, List.filter_cons]
    by_cases heq : n = name
    · cases hlast : (more.filter (·.1 = name)).getLast? <;>
        simp [heq, hlast, List.getLast?_cons]
    · simp [heq, Ne.symm heq]

/-- One entry more among those that are set counts like one that is set after them. -/
theorem insertAll_insert {more : Entries α} (hmore : more.IsOrdered) (hentries : entries.IsOrdered)
    (name : String) (value : α) :
    insertAll entries (insert name value more) = insert name value (insertAll entries more) := by
  refine (hentries.insertAll _).ext ((hentries.insertAll more).insert name value) fun other => ?_
  rw [get?_insertAll (hmore.insert name value), get?_insert, get?_insert, get?_insertAll hmore]
  split
  · rfl
  · rfl

/-- Setting entries that are in order, with nothing there before, gives just them. -/
theorem IsOrdered.ofList_eq_self (h : entries.IsOrdered) : ofList entries = entries := by
  refine (isOrdered_ofList entries).ext h fun name => ?_
  rw [ofList, get?_insertAll h, get?_nil, Option.or_none]

/-! ### Other values under the same names -/

theorem get?_map (f : α → β) (name : String) (entries : Entries α) :
    get? name (entries.map fun (n, v) => (n, f v)) = (get? name entries).map f := by
  induction entries with
  | nil => rfl
  | cons entry rest ih =>
    obtain ⟨n, v⟩ := entry
    rw [List.map_cons, get?, get?]
    split
    · rfl
    · exact ih

theorem IsOrdered.map (h : entries.IsOrdered) (f : α → β) :
    IsOrdered (entries.map fun (n, v) => (n, f v)) :=
  List.Pairwise.map _ (fun _ _ hlt => hlt) h

end VideoPosters.Entries
