import VideoPosters.Proofs.Duration.Components
import VideoPosters.Proofs.Template.Canonical

/-!
# Durations that are written out

Any of the seven components may be written and any be left out, with as many digits as one
likes; reading gives each its own value again.

## Main definitions

* `Writes` — the texts of some numerals for components.
* `Duration.text` — a duration with all its components written out.

## Main results

* `get_parseChars` — a component that is written has the value of its numeral.
* `parse_writes` — **what is written is read back.**
-/

namespace VideoPosters.Duration

open Template (numberOf numberOf_numeral)

/-- The components of an order for which there are numerals. -/
def present (numerals : Component → Option (List Char)) (cs : List Component) :
    List (Component × List Char) :=
  cs.filterMap fun c => (numerals c).map (c, ·)

/-- The texts of some numerals for components: a `P`, those of the calendar, a `T` and those of
the clock, where the `T` may be left out if there are none of the clock. -/
inductive Writes (numerals : Component → Option (List Char)) : List Char → Prop where
  | withClock : Writes numerals ('P' :: (written (present numerals Component.calendar) ++
      'T' :: written (present numerals Component.clock)))
  | withoutClock (h : ∀ c ∈ Component.clock, numerals c = none) :
      Writes numerals ('P' :: written (present numerals Component.calendar))

/-- A duration with all its components written out. -/
def text (d : Duration) : List Char :=
  let numerals (c : Component) : Option (List Char) := some (Decimal.numeral (d.get c))
  'P' :: (written (present numerals Component.calendar) ++
    'T' :: written (present numerals Component.clock))

theorem isNumeral_numeral (n : Nat) : IsNumeral (Decimal.numeral n) :=
  ⟨Nat.toDigits_ne_nil, fun _ hx => Nat.isDigit_of_mem_toDigits (by omega) (by omega) hx⟩

/-- A numeral has the value that it writes, if that is below `2 ^ 64`. -/
theorem IsNumeral.numberValue_eq {digits : List Char} (h : IsNumeral digits) :
    numberValue digits = if numberOf digits < 2 ^ 64 then numberOf digits else 0 := by
  have hdigits : digits.all Char.isDigit = true := List.all_eq_true.2 h.2
  rw [Duration.numberValue_eq]
  simp only [eq_true hdigits, true_and]

variable {numerals : Component → Option (List Char)}

theorem present_cons (c : Component) (cs : List Component) :
    present numerals (c :: cs) = (match numerals c with
      | some digits => [(c, digits)]
      | none => []) ++ present numerals cs := by
  rw [present, List.filterMap_cons]
  cases numerals c with
  | none => rfl
  | some digits => rfl

/-- Components for which there are numerals come in order. -/
theorem isInOrder_present (h : ∀ c digits, numerals c = some digits → IsNumeral digits)
    (cs : List Component) : IsInOrder cs (present numerals cs) := by
  induction cs with
  | nil => exact isInOrder_nil []
  | cons c cs ih =>
    rw [present_cons]
    cases hc : numerals c with
    | none => exact ⟨ih.sublist.cons c, ih.isRun⟩
    | some digits =>
      have hrun : IsRun digits := (h c digits hc).isRun
      exact ⟨ih.sublist.cons_cons c, List.forall_mem_cons.2 ⟨hrun, ih.isRun⟩⟩

/-- A component of an order is found with its numeral. -/
theorem lookup_present (cs : List Component) (c : Component) :
    (present numerals cs).lookup c = if c ∈ cs then numerals c else none := by
  induction cs with
  | nil => rfl
  | cons c' cs ih =>
    rw [present_cons]
    by_cases h : c = c'
    · subst h
      rw [if_pos List.mem_cons_self]
      cases hc : numerals c with
      | some digits => simp
      | none => simp [ih, hc]
    · have hmem : c ∈ c' :: cs ↔ c ∈ cs := by simp [h]
      simp only [hmem, ← ih]
      cases numerals c' with
      | some digits => simp [List.lookup_cons, beq_false_of_ne h]
      | none => rfl

/-- Whatever is written is read. -/
theorem Writes.found_ofText (h : ∀ c digits, numerals c = some digits → IsNumeral digits)
    {s : List Char} (hs : Writes numerals s) :
    ∃ t, s = 'P' :: t ∧ (Reading.ofText t).found =
      present numerals Component.calendar ++ present numerals Component.clock := by
  cases hs with
  | withClock =>
    have hread := Reading.found_ofText_written
      (.clock (isInOrder_present h Component.calendar)) (isInOrder_present h Component.clock)
    rw [List.append_assoc, List.singleton_append] at hread
    exact ⟨_, rfl, hread⟩
  | withoutClock hclock =>
    have hread := Reading.found_ofText_written .calendar (isInOrder_present h Component.calendar)
    have hnone : present numerals Component.clock = [] := by
      rw [present, List.filterMap_eq_nil_iff]
      intro c hc
      rw [hclock c hc, Option.map_none]
    exact ⟨_, rfl, by rw [hnone, List.append_nil]; exact hread⟩

/-- A component that is written has the value of its numeral, and one that is left out is zero. -/
theorem get_parseChars (h : ∀ c digits, numerals c = some digits → IsNumeral digits)
    {u s : List Char} (hu : 'P' ∉ u) (hs : Writes numerals s) (c : Component) :
    (parseChars (u ++ s)).get c = ((numerals c).map numberValue).getD 0 := by
  obtain ⟨t, rfl, hfound⟩ := hs.found_ofText h
  rw [parseChars_eq hu, get_ofValues, hfound, valueIn, List.lookup_append, lookup_present,
    lookup_present]
  -- no component is of both orders, so that only one of them can have it
  by_cases hc : c ∈ Component.calendar
  · rw [if_pos hc, if_neg fun h => Component.mem_clock_iff.1 h hc, Option.or_none]
  · rw [if_neg hc, if_pos (Component.mem_clock_iff.2 hc), Option.none_or]

/-- A duration is read from every text that writes its components. -/
theorem parseChars_of_numerals (h : ∀ c digits, numerals c = some digits → IsNumeral digits)
    {u s : List Char} (hu : 'P' ∉ u) (hs : Writes numerals s) {d : Duration}
    (hd : ∀ c, d.get c < 2 ^ 64) (hnumerals : ∀ c, ((numerals c).map numberOf).getD 0 = d.get c) :
    parseChars (u ++ s) = d := by
  -- durations are the same if all their components are, and these are compared one by one
  have hget : ∀ c, (parseChars (u ++ s)).get c = d.get c := by
    intro c
    rw [get_parseChars h hu hs, ← hnumerals]
    cases hc : numerals c with
    | none => rfl
    | some digits =>
      have hlt : numberOf digits < 2 ^ 64 := by
        have hvalue := hnumerals c
        rw [hc, Option.map_some, Option.getD_some] at hvalue
        rw [hvalue]
        exact hd c
      rw [Option.map_some, Option.map_some, Option.getD_some, Option.getD_some,
        (h c digits hc).numberValue_eq, if_pos hlt]
  rw [← ofValues_get (parseChars (u ++ s)), ← ofValues_get d, funext hget]

/-- **What is written is read back**: each component that is written has the value of its
numeral, or zero if that is `2 ^ 64` or more, and each that is left out is zero.  So a duration
is read from every text that writes its components, among them the one that writes them all. -/
theorem parse_writes (h : ∀ c digits, numerals c = some digits → IsNumeral digits)
    {u s : List Char} (hu : 'P' ∉ u) (hs : Writes numerals s) :
    (∀ c, (parse (String.ofList (u ++ s))).get c = match numerals c with
      | some digits => if numberOf digits < 2 ^ 64 then numberOf digits else 0
      | none => 0) ∧
    ∀ d : Duration, (∀ c, d.get c < 2 ^ 64) →
      ((∀ c, ((numerals c).map numberOf).getD 0 = d.get c) →
        parse (String.ofList (u ++ s)) = d) ∧
      parse (String.ofList (u ++ d.text)) = d := by
  rw [parse_ofList]
  refine ⟨fun c => ?_, fun d hd => ⟨parseChars_of_numerals h hu hs hd, ?_⟩⟩
  · rw [get_parseChars h hu hs]
    cases hc : numerals c with
    | none => rfl
    | some digits => exact (h c digits hc).numberValue_eq
  · rw [parse_ofList]
    refine parseChars_of_numerals ?_ hu .withClock hd fun c => numberOf_numeral (d.get c)
    rintro c digits ⟨⟩
    exact isNumeral_numeral (d.get c)

/-- Months with zeros in front, days beyond `2 ^ 64`, minutes, and nothing else; and the greatest
number of years. -/
theorem parse_writes_months_minutes :
    let numerals : Component → Option (List Char)
      | .months => some "007".toList
      | .days => some "18446744073709551616".toList
      | .minutes => some "05".toList
      | _ => none
    let d : Duration := ⟨18446744073709551615, 0, 3, 0, 0, 59, 0⟩
    Writes numerals "P007M18446744073709551616DT05M".toList ∧
    (parse (String.ofList ("x ".toList ++ "P007M18446744073709551616DT05M".toList))).months = 7 ∧
    (parse (String.ofList ("x ".toList ++ "P007M18446744073709551616DT05M".toList))).days = 0 ∧
    (parse (String.ofList ("x ".toList ++ "P007M18446744073709551616DT05M".toList))).minutes = 5 ∧
    parse (String.ofList ("x ".toList ++ d.text)) = d := by
  intro numerals d
  have hwrites : Writes numerals "P007M18446744073709551616DT05M".toList := .withClock
  have hnumerals : ∀ c digits, numerals c = some digits → IsNumeral digits := by
    intro c digits hc
    cases c <;> cases hc <;> decide
  have hd : ∀ c, d.get c < 2 ^ 64 := by
    intro c
    cases c <;> decide
  obtain ⟨hget, hback⟩ := parse_writes hnumerals (u := "x ".toList) (by decide) hwrites
  exact ⟨hwrites, (hget .months).trans (by decide), (hget .days).trans (by decide),
    (hget .minutes).trans (by decide), (hback d hd).2⟩

end VideoPosters.Duration
