import VideoPosters.Proofs.Duration.Writing
import VideoPosters.Text.Pieces

/-!
# Playing times are read back

A playing time is written as groups of digits with colons between them.  The groups say hours,
minutes and seconds exactly, however many they are, and the playing time in seconds is their sum
as far as that can be held.

## Main definitions

* `groups` — the groups of a playing time.
* `IsPlain`, `IsPadded` — how the first group and the other groups are written.

## Main results

* `groups_of_hours`, `groups_of_no_hours` — the groups are the numerals of the components.
* `clockSeconds_eq` — the seconds are the exact sum, held at the greatest value.
* `display_reads_back` — **a playing time says hours, minutes and seconds, and its seconds.**
-/

namespace VideoPosters.Duration

open Text (splitAt splitAt_of_notMem splitAt_append_cons)
open Template (numberOf numberOf_numeral)

/-- The groups of a playing time. -/
def groups (d : Duration) : List (List Char) := splitAt ':' d.display.toList

/-- Whether a numeral has no zero in front, unless it is `0`. -/
def IsPlain (digits : List Char) : Prop :=
  IsNumeral digits ∧ (digits.head? = some '0' → digits = ['0'])

/-- Whether a numeral has two digits at least, and no zero in front if it has more. -/
def IsPadded (digits : List Char) : Prop :=
  IsNumeral digits ∧ 2 ≤ digits.length ∧ (digits.head? = some '0' → digits.length = 2)

/-! ### Numerals -/

/-- Only the numeral of zero has a zero in front. -/
theorem head?_numeral {n : Nat} (hn : n ≠ 0) : (Decimal.numeral n).head? ≠ some '0' := by
  induction n using Nat.strong_induction_on with
  | _ n ih =>
    unfold Decimal.numeral at ih ⊢
    by_cases hlt : n < 10
    · rw [Nat.toDigits_of_lt_base hlt, List.head?_cons]
      intro h
      exact hn (Nat.digitChar_eq_zero.1 (Option.some.inj h))
    · have hfront := ih (n / 10) (by omega) (by omega)
      rw [Nat.toDigits_of_base_le (by omega) (by omega),
        List.head?_append_of_ne_nil _ Nat.toDigits_ne_nil]
      exact hfront

theorem isPlain_numeral (n : Nat) : IsPlain (Decimal.numeral n) := by
  refine ⟨isNumeral_numeral n, fun hhead => ?_⟩
  by_cases hn : n = 0
  · rw [hn]
    rfl
  · exact absurd hhead (head?_numeral hn)

theorem isPadded_twoDigits (n : Nat) : IsPadded (twoDigits n) := by
  unfold twoDigits
  by_cases hlt : n < 10
  · rw [if_pos hlt, Decimal.numeral, Nat.toDigits_of_lt_base hlt]
    have hdigit : n.digitChar.isDigit = true := by simp [hlt]
    exact ⟨⟨by simp, by simp [hdigit]⟩, by simp, by simp⟩
  · rw [if_neg hlt]
    have hlength : ¬ (Decimal.numeral n).length ≤ 1 := by
      rw [Decimal.numeral, Nat.length_toDigits_le_iff (by omega) (by omega)]
      omega
    exact ⟨isNumeral_numeral n, by omega, fun hhead => absurd hhead (head?_numeral (by omega))⟩

theorem numberOf_zero_cons (digits : List Char) : numberOf ('0' :: digits) = numberOf digits := by
  simp [numberOf, Nat.ofDigits_append]

theorem numberOf_twoDigits (n : Nat) : numberOf (twoDigits n) = n := by
  unfold twoDigits
  split
  · rw [numberOf_zero_cons, numberOf_numeral]
  · exact numberOf_numeral n

theorem IsNumeral.notMem_colon {digits : List Char} (h : IsNumeral digits) : ':' ∉ digits := by
  intro hmem
  have hdigit := h.2 ':' hmem
  cases hdigit

/-! ### Groups -/

theorem splitAt_numeral {digits : List Char} (h : IsNumeral digits) (s : List Char) :
    splitAt ':' (digits ++ ':' :: s) = digits :: splitAt ':' s := by
  rw [splitAt_append_cons, splitAt_of_notMem h.notMem_colon, List.singleton_append]

theorem groups_of_hours {d : Duration} (h : 0 < d.hours) :
    groups d = [Decimal.numeral d.hours, twoDigits d.minutes, twoDigits d.seconds] := by
  rw [groups, display, String.toList_ofList, displayChars, if_pos h, List.append_assoc,
    List.cons_append, splitAt_numeral (isNumeral_numeral _),
    splitAt_numeral (isPadded_twoDigits _).1, splitAt_of_notMem (isPadded_twoDigits _).1.notMem_colon]

theorem groups_of_no_hours {d : Duration} (h : d.hours = 0) :
    groups d = [Decimal.numeral d.minutes, twoDigits d.seconds] := by
  have hnot : ¬ 0 < d.hours := by omega
  rw [groups, display, String.toList_ofList, displayChars, if_neg hnot,
    splitAt_numeral (isNumeral_numeral _), splitAt_of_notMem (isPadded_twoDigits _).1.notMem_colon]

/-- The numbers of the groups are the components. -/
theorem map_numberOf_groups (d : Duration) :
    (groups d).map numberOf =
      if 0 < d.hours then [d.hours, d.minutes, d.seconds] else [d.minutes, d.seconds] := by
  by_cases h : 0 < d.hours
  · simp [groups_of_hours h, numberOf_numeral, numberOf_twoDigits, h]
  · simp [groups_of_no_hours (Nat.eq_zero_of_not_pos h), numberOf_numeral, numberOf_twoDigits, h]

/-- Two playing times are one if hours, minutes and seconds are. -/
theorem display_eq_iff {d e : Duration} : d.display = e.display ↔
    d.hours = e.hours ∧ d.minutes = e.minutes ∧ d.seconds = e.seconds := by
  constructor
  · intro h
    -- the groups can be told from what is shown, and the numbers from the groups
    have hgroups : (groups d).map numberOf = (groups e).map numberOf := by
      rw [groups, groups, h]
    rw [map_numberOf_groups, map_numberOf_groups] at hgroups
    split at hgroups
    · split at hgroups
      · simpa using hgroups
      · simp at hgroups
    · split at hgroups
      · simp at hgroups
      · have hboth : d.minutes = e.minutes ∧ d.seconds = e.seconds := by simpa using hgroups
        exact ⟨by omega, hboth⟩
  · rintro ⟨hhours, hminutes, hseconds⟩
    rw [display, display, displayChars, displayChars, hhours, hminutes, hseconds]

/-! ### Seconds -/

theorem hold_eq (n : Nat) : hold n = min (2 ^ 64 - 1) n := Nat.min_comm n greatest

/-- Holding the parts of a sum does not change the held sum. -/
theorem hold_add_hold (m n : Nat) : hold (hold m + hold n) = hold (m + n) := by
  simp only [hold_eq]
  omega

theorem hold_hold_add (m n : Nat) : hold (hold m + n) = hold (m + n) := by
  simp only [hold_eq]
  omega

/-- The seconds are the exact sum, held at the greatest value. -/
theorem clockSeconds_eq (d : Duration) :
    d.clockSeconds = min (2 ^ 64 - 1) (3600 * d.hours + 60 * d.minutes + d.seconds) := by
  rw [clockSeconds, hold_add_hold, hold_hold_add, hold_eq, Nat.mul_comm 3600, Nat.mul_comm 60]

/-- **A playing time says hours, minutes and seconds, and its seconds.**  It has two groups
without hours and three with hours; the first is written without zeros in front and the others
are filled up to two digits.  Their numbers are minutes and seconds, with hours in front, so that
two durations are shown alike just if these are the same.  The playing time in seconds is the
exact sum of the groups held at `2 ^ 64 - 1`, and so is every sum and product on the way. -/
theorem display_reads_back (d : Duration) :
    (d.hours = 0 → ∃ m s, groups d = [m, s] ∧ IsPlain m ∧ IsPadded s ∧
      numberOf m = d.minutes ∧ numberOf s = d.seconds ∧
      d.clockSeconds = min (2 ^ 64 - 1) (60 * numberOf m + numberOf s)) ∧
    (0 < d.hours → ∃ h m s, groups d = [h, m, s] ∧ IsPlain h ∧ IsPadded m ∧ IsPadded s ∧
      numberOf h = d.hours ∧ numberOf m = d.minutes ∧ numberOf s = d.seconds ∧
      d.clockSeconds =
        min (2 ^ 64 - 1) (3600 * numberOf h + 60 * numberOf m + numberOf s)) ∧
    (∀ e : Duration, d.display = e.display ↔
      d.hours = e.hours ∧ d.minutes = e.minutes ∧ d.seconds = e.seconds) ∧
    hold (d.hours * 3600) = min (2 ^ 64 - 1) (3600 * d.hours) ∧
    hold (d.minutes * 60) = min (2 ^ 64 - 1) (60 * d.minutes) ∧
    hold (hold (d.hours * 3600) + hold (d.minutes * 60)) =
      min (2 ^ 64 - 1) (3600 * d.hours + 60 * d.minutes) := by
  refine ⟨fun h => ?_, fun h => ?_, fun e => display_eq_iff, ?_, ?_, ?_⟩
  · refine ⟨_, _, groups_of_no_hours h, isPlain_numeral _, isPadded_twoDigits _,
      numberOf_numeral _, numberOf_twoDigits _, ?_⟩
    rw [numberOf_numeral, numberOf_twoDigits, clockSeconds_eq, h, Nat.mul_zero, Nat.zero_add]
  · refine ⟨_, _, _, groups_of_hours h, isPlain_numeral _, isPadded_twoDigits _,
      isPadded_twoDigits _, numberOf_numeral _, numberOf_twoDigits _, numberOf_twoDigits _, ?_⟩
    rw [numberOf_numeral, numberOf_twoDigits, numberOf_twoDigits, clockSeconds_eq]
  · rw [hold_eq, Nat.mul_comm]
  · rw [hold_eq, Nat.mul_comm]
  · rw [hold_add_hold, hold_eq, Nat.mul_comm, Nat.mul_comm d.minutes]

/-- One second too many to be held, and minutes beyond an hour. -/
theorem display_reads_back_held :
    let d : Duration := ⟨0, 0, 0, 0, 5124095576030431, 0, 16⟩
    let e : Duration := ⟨0, 0, 0, 0, 0, 100, 7⟩
    (∃ h m s, groups d = [h, m, s] ∧ numberOf h = 5124095576030431 ∧ numberOf m = 0 ∧
      IsPadded m ∧ numberOf s = 16 ∧ d.clockSeconds = 2 ^ 64 - 1) ∧
    (∃ m s, groups e = [m, s] ∧ numberOf m = 100 ∧ IsPadded s ∧ numberOf s = 7 ∧
      e.clockSeconds = 6007) ∧
    d.display ≠ e.display := by
  intro d e
  obtain ⟨-, hd, hsame, -⟩ := display_reads_back d
  obtain ⟨he, -⟩ := display_reads_back e
  obtain ⟨h, m, s, hgroups, -, hm, -, hhours, hminutes, hseconds, hclock⟩ := hd (by decide)
  obtain ⟨m', s', hgroups', -, hs', hminutes', hseconds', hclock'⟩ := he rfl
  rw [hhours, hminutes, hseconds] at hclock
  rw [hminutes', hseconds'] at hclock'
  exact ⟨⟨h, m, s, hgroups, hhours, hminutes, hm, hseconds, hclock⟩,
    ⟨m', s', hgroups', hminutes', hs', hseconds', hclock'⟩,
    fun h => absurd ((hsame e).1 h).1 (by decide)⟩

end VideoPosters.Duration
