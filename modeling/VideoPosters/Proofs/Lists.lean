import Mathlib.Data.List.Sort
import Mathlib.Data.Nat.Count

/-!
# Lists

What is needed about lists whatever they are made of: lists in which an entry is replaced, lists
without the entries of some numbers, and lists of what is found at the places of an order.

## Main definitions

* `leaveOut`, `newNumber` — a list without the entries of some numbers, and the numbers of the
  others among those that are left.
* `ListsInOrder` — whether results are just those that places have, in the order of the places.

## Main results

* `countP_set_add`, `any_set_of_eq` — what replacing an entry does to a count, and to a search.
* `listsInOrder_filterMap` — **asking one place after the other lists what they have, in order.**
* `ListsInOrder.unique`, `ListsInOrder.getLast?_eq_some_iff` — there is one such list, and its last
  result is that of the last place that has one.
-/

namespace VideoPosters

/-! ### Replacing an entry -/

section

variable {α : Type} {l : List α} {i : Nat} {a : α}

/-- Setting an entry to what it is changes nothing. -/
theorem set_of_getElem? (h : l[i]? = some a) : l.set i a = l := by
  obtain ⟨hlt, rfl⟩ := List.getElem?_eq_some_iff.1 h
  exact List.set_getElem_self hlt

/-- Replacing an entry changes a count by what the two entries count. -/
theorem countP_set_add (p : α → Bool) (h : l[i]? = some a) (b : α) :
    (l.set i b).countP p + (p a).toNat = l.countP p + (p b).toNat := by
  induction l generalizing i with
  | nil => cases h
  | cons c l ih =>
    have hcons : ∀ (d : α) (l : List α), (d :: l).countP p = l.countP p + (p d).toNat := by
      intro d l
      rw [List.countP_cons]
      cases p d <;> rfl
    cases i with
    | zero =>
      obtain rfl : c = a := Option.some.inj h
      rw [List.set_cons_zero, hcons, hcons]
      omega
    | succ i =>
      rw [List.set_cons_succ, hcons, hcons]
      have := ih (i := i) h
      omega

/-- Replacing an entry by one of which the same is true changes nothing that is true of some
entry. -/
theorem any_set_of_eq {p : α → Bool} {b : α} (h : l[i]? = some a) (hp : p b = p a) :
    (l.set i b).any p = l.any p := by
  induction l generalizing i with
  | nil => rfl
  | cons c l ih =>
    cases i with
    | zero =>
      obtain rfl : c = a := Option.some.inj h
      rw [List.set_cons_zero, List.any_cons, List.any_cons, hp]
    | succ i => rw [List.set_cons_succ, List.any_cons, List.any_cons, ih (i := i) h]

/-- An entry that is added has the next number. -/
theorem getD_concat (l : List α) (a default : α) : (l ++ [a]).getD l.length default = a := by
  rw [List.getD_eq_getElem?_getD, List.getElem?_concat_length]
  rfl

end

/-! ### Leaving out -/

section

variable {α : Type}

/-- A list without the entries of some numbers. -/
def leaveOut (gone : Nat → Bool) : List α → List α
  | [] => []
  | a :: l =>
    if gone 0 then leaveOut (fun i => gone (i + 1)) l else a :: leaveOut (fun i => gone (i + 1)) l

/-- The number of an entry among those that are left. -/
def newNumber (gone : Nat → Bool) (i : Nat) : Nat := Nat.count (fun j => gone j = false) i

variable {gone : Nat → Bool}

theorem newNumber_succ (i : Nat) : newNumber gone (i + 1) =
    newNumber (fun j => gone (j + 1)) i + if gone 0 = false then 1 else 0 :=
  Nat.count_succ' _ i

/-- An entry that is added stays if its number does. -/
theorem leaveOut_concat (l : List α) (a : α) : leaveOut gone (l ++ [a]) =
    leaveOut gone l ++ if gone l.length then [] else [a] := by
  induction l generalizing gone with
  | nil => rw [List.nil_append, leaveOut, leaveOut, List.nil_append]; rfl
  | cons b l ih =>
    rw [List.cons_append, leaveOut, leaveOut, ih, List.length_cons]
    split <;> rfl

/-- An entry that is left out can be replaced. -/
theorem leaveOut_set_of_gone {i : Nat} (h : gone i = true) (l : List α) (a : α) :
    leaveOut gone (l.set i a) = leaveOut gone l := by
  induction l generalizing gone i with
  | nil => rfl
  | cons b l ih =>
    cases i with
    | zero => rw [List.set_cons_zero, leaveOut, leaveOut, if_pos h, if_pos h]
    | succ i =>
      have hrest := @ih (fun j => gone (j + 1)) i h
      rw [List.set_cons_succ, leaveOut, leaveOut, hrest]

/-- An entry that is left is replaced at its new number. -/
theorem leaveOut_set {i : Nat} (h : gone i = false) (l : List α) (a : α) :
    leaveOut gone (l.set i a) = (leaveOut gone l).set (newNumber gone i) a := by
  induction l generalizing gone i with
  | nil => rfl
  | cons b l ih =>
    cases i with
    | zero =>
      rw [List.set_cons_zero, leaveOut, leaveOut, h]
      rfl
    | succ i =>
      have hrest := @ih (fun j => gone (j + 1)) i h
      rw [List.set_cons_succ, leaveOut, leaveOut, hrest, newNumber_succ]
      -- the first entry counts for the new number just if it is left
      cases gone 0 <;> rfl

/-- An entry that is left is found at its new number. -/
theorem getElem?_leaveOut {i : Nat} (h : gone i = false) (l : List α) :
    (leaveOut gone l)[newNumber gone i]? = l[i]? := by
  induction l generalizing gone i with
  | nil => rfl
  | cons b l ih =>
    cases i with
    | zero =>
      rw [leaveOut, h]
      rfl
    | succ i =>
      have hrest := @ih (fun j => gone (j + 1)) i h
      rw [leaveOut, newNumber_succ, List.getElem?_cons_succ, ← hrest]
      cases gone 0 <;> rfl

/-- What is true of no entry that is left out is true of some entry just if it is true of
some that is left. -/
theorem any_leaveOut {p : α → Bool} {l : List α}
    (h : ∀ i a, gone i = true → l[i]? = some a → p a = false) :
    (leaveOut gone l).any p = l.any p := by
  induction l generalizing gone with
  | nil => rfl
  | cons b l ih =>
    have hrest := @ih (fun j => gone (j + 1)) fun i a hi ha => h (i + 1) a hi ha
    rw [leaveOut, List.any_cons]
    split
    · next h0 => rw [hrest, h 0 b h0 rfl, Bool.false_or]
    · rw [List.any_cons, hrest]

end

/-! ### Places in order -/

/-- Whether results are just those that places have, in the order of the places. -/
def ListsInOrder {ι α : Type} [LT ι] (result? : ι → Option α) (results : List α) : Prop :=
  ∃ places : List ι, places.Pairwise (· < ·) ∧
    (∀ place, place ∈ places ↔ (result? place).isSome = true) ∧
    places.map result? = results.map some

section

variable {ι α β : Type} [LT ι] {result? : ι → Option α} {results : List α}

/-- **Asking one place after the other lists what they have, in order**, if no place that has
something is left out. -/
theorem listsInOrder_filterMap {places : List ι} (hsorted : places.Pairwise (· < ·))
    (hall : ∀ place, (result? place).isSome = true → place ∈ places) :
    ListsInOrder result? (places.filterMap result?) := by
  refine ⟨places.filter fun place => (result? place).isSome, hsorted.filter _, fun place => ?_, ?_⟩
  · rw [List.mem_filter, and_iff_right_of_imp (hall place)]
  · rw [List.map_filterMap_some_eq_filter_map_isSome, List.filter_map]
    rfl

/-- Where one place after another is listed, the last is the one that none comes after. -/
theorem getLast?_eq_some_iff_of_pairwise [Std.Asymm ((· < ·) : ι → ι → Prop)] {place : ι}
    {places : List ι} (h : places.Pairwise (· < ·)) :
    places.getLast? = some place ↔ place ∈ places ∧ ∀ later ∈ places, ¬ place < later := by
  rcases List.eq_nil_or_concat places with rfl | ⟨before, last, rfl⟩
  · simp
  rw [List.concat_eq_append] at h ⊢
  obtain ⟨-, -, hbefore⟩ := List.pairwise_append.1 h
  replace hbefore : ∀ place ∈ before, place < last := fun place hplace =>
    hbefore place hplace last (List.mem_singleton.2 rfl)
  rw [List.getLast?_concat, Option.some.injEq]
  constructor
  · rintro rfl
    refine ⟨List.mem_append_right before (List.mem_singleton.2 rfl), fun later hlater hlt => ?_⟩
    rcases List.mem_append.1 hlater with hlater | hlater
    · exact Std.Asymm.asymm _ _ hlt (hbefore later hlater)
    · rw [List.mem_singleton.1 hlater] at hlt
      exact Std.Asymm.asymm _ _ hlt hlt
  · rintro ⟨hplace, hlater⟩
    rcases List.mem_append.1 hplace with hplace | hplace
    · exact absurd (hbefore place hplace)
        (hlater last (List.mem_append_right before (List.mem_singleton.2 rfl)))
    · exact (List.mem_singleton.1 hplace).symm

namespace ListsInOrder

/-- What is made of each result is listed in the same order. -/
theorem map (h : ListsInOrder result? results) (f : α → β) :
    ListsInOrder (fun place => (result? place).map f) (results.map f) := by
  obtain ⟨places, hsorted, hmem, hresults⟩ := h
  refine ⟨places, hsorted, fun place => by rw [hmem, Option.isSome_map], ?_⟩
  calc places.map (fun place => (result? place).map f)
      = (places.map result?).map (Option.map f) := by rw [List.map_map]; rfl
    _ = (results.map f).map some := by
      rw [hresults, List.map_map, List.map_map]
      rfl

/-- There is no result just if no place has one. -/
theorem eq_nil_iff (h : ListsInOrder result? results) :
    results = [] ↔ ∀ place, result? place = none := by
  obtain ⟨places, -, hmem, hresults⟩ := h
  have hnil : results = [] ↔ places = [] := by
    rw [← List.map_eq_nil_iff (f := some), ← hresults, List.map_eq_nil_iff]
  rw [hnil, List.eq_nil_iff_forall_not_mem]
  simp only [hmem, Option.not_isSome_iff_eq_none]

variable [Std.Asymm ((· < ·) : ι → ι → Prop)]

/-- The results are determined. -/
theorem unique {others : List α} (h : ListsInOrder result? results)
    (h' : ListsInOrder result? others) : results = others := by
  obtain ⟨places, hsorted, hmem, hresults⟩ := h
  obtain ⟨places', hsorted', hmem', hothers⟩ := h'
  have hplaces : places = places' :=
    hsorted.eq_of_mem_iff hsorted' fun place => (hmem place).trans (hmem' place).symm
  rw [hplaces, hothers] at hresults
  exact (List.map_injective_iff.2 (Option.some_injective α) hresults).symm

/-- The last result is that of the place with a result that none with a result comes after. -/
theorem getLast?_eq_some_iff (h : ListsInOrder result? results) {result : α} :
    results.getLast? = some result ↔
      ∃ place, result? place = some result ∧ ∀ later, place < later → result? later = none := by
  obtain ⟨places, hsorted, hmem, hresults⟩ := h
  have hlast : results.getLast? = some result ↔
      ∃ place, places.getLast? = some place ∧ result? place = some result := by
    rw [← Option.map_eq_some_iff, ← List.getLast?_map, hresults, List.getLast?_map,
      Option.map_eq_some_iff]
    simp
  rw [hlast]
  simp only [getLast?_eq_some_iff_of_pairwise hsorted, hmem]
  constructor
  · rintro ⟨place, ⟨-, hlater⟩, hplace⟩
    refine ⟨place, hplace, fun later hlt => ?_⟩
    by_contra hsome
    exact hlater later (Option.isSome_iff_ne_none.2 hsome) hlt
  · rintro ⟨place, hplace, hnone⟩
    refine ⟨place, ⟨by rw [hplace]; rfl, fun later hsome hlt => ?_⟩, hplace⟩
    rw [hnone later hlt] at hsome
    cases hsome

end ListsInOrder

end

end VideoPosters
