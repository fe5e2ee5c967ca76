import VideoPosters.Proofs.Duration.Scanning
import VideoPosters.Proofs.Text.Pattern

/-!
# The pattern of a duration

A duration has the values of the groups of the pattern

    P(?:(\d+)Y)?(?:(\d+)M)?(?:(\d+)W)?(?:(\d+)D)?(?:T(?:(\d+)H)?(?:(\d+)M)?(?:(\d+)S)?)?

in the match that is found in the text.  Searching for it never goes back: a run of digits is
followed by one character, which belongs to the next component or ends the match.

## Main definitions

* `pattern` — the pattern.
* `ofMatch` — the duration of a match.

## Main results

* `find?_pattern` — **what the pattern finds is what is read in order.**
* `Reading.ofText_outOfOrder` — a component out of order ends the match.
* `parseChars_divided` — a `T` divides the text: months before it, minutes behind it.
* `parse_leftmost` — **a duration is that of the match, and how it is found.**
-/

namespace VideoPosters.Duration

open Text (Pattern Match isDecimalDigit)
open Text.Pattern (Prefers cat char)
open Template (numberOf)

/-! ### The pattern -/

/-- The pattern of a component: a run of digits, kept under a number, and a letter. -/
def componentPattern (number : Nat) (unit : Char) : Pattern :=
  .opt (.seq (.group number (.many isDecimalDigit)) (char unit))

/-- The pattern of a duration. -/
def pattern : Pattern :=
  cat [char 'P', componentPattern 1 'Y', componentPattern 2 'M', componentPattern 3 'W',
    componentPattern 4 'D',
    .opt (cat [char 'T', componentPattern 5 'H', componentPattern 6 'M', componentPattern 7 'S'])]

/-- The value of a group: that of its digits, unless it takes no part in the match, has digits
that are not ASCII, or writes a number of `2 ^ 64` or more. -/
def groupValue (m : Match) (number : Nat) : Nat :=
  match m.groups.lookup number with
  | some digits =>
    if digits.all Char.isDigit ∧ numberOf digits < 2 ^ 64 then numberOf digits else 0
  | none => 0

/-- The duration of a match. -/
def ofMatch (m : Match) : Duration :=
  ⟨groupValue m 1, groupValue m 2, groupValue m 3, groupValue m 4, groupValue m 5,
    groupValue m 6, groupValue m 7⟩

/-- The number of the group of a component. -/
def Component.number : Component → Nat
  | years => 1
  | months => 2
  | weeks => 3
  | days => 4
  | hours => 5
  | minutes => 6
  | seconds => 7

theorem Component.number_inj {c c' : Component} : c.number = c'.number ↔ c = c' := by
  cases c <;> cases c' <;> decide

/-- The pattern of a component with its own number and letter. -/
def Component.pattern (c : Component) : Pattern := componentPattern c.number c.unit

/-! ### What is preferred -/

/-- The way that takes some components. -/
def matchOf (found : List (Component × List Char)) (rest : List Char) : Match :=
  ⟨written found, rest, found.map fun f => (f.1.number, f.2)⟩

theorem matchOf_append (found more : List (Component × List Char)) (s rest : List Char) :
    (matchOf found s).append (matchOf more rest) = matchOf (found ++ more) rest := by
  simp [matchOf, Match.append, written_append]

theorem matchOf_append_empty (found : List (Component × List Char)) (rest : List Char) :
    (matchOf found rest).append (.empty rest) = matchOf found rest :=
  Match.append_empty (matchOf found rest)

/-- The pattern of a component rather takes it, and takes nothing if it is not there. -/
theorem prefers_component (c : Component) (s : List Char) :
    c.pattern.Prefers s (matchOf (inOrder [c] s).1 (inOrder [c] s).2) := by
  have hunit : isDecimalDigit c.unit = false := c.isDecimalDigit_unit
  -- the text starts with no digit, with digits alone, or with digits and what closes them
  cases start s with
  | bare hs =>
    rw [inOrder_bare _ hs]
    exact Pattern.prefers_opt_of_ways_eq_nil (Pattern.ways_group_many_seq_eq_nil hs)
  | unended hrun =>
    rw [inOrder_unended _ hrun]
    have hways := Pattern.ways_group_many_char c.number hunit hrun.1 hrun.2 isBare_nil
    rw [List.append_nil] at hways
    exact Pattern.prefers_opt_of_ways_eq_nil hways
  | @closed run hrun x hx rest =>
    have hways := Pattern.ways_group_many_char c.number hunit hrun.1 hrun.2
      (isBare_cons hx rest)
    by_cases hxc : x = c.unit
    · have hdue : due x [c] = [c] := by simp [due, hxc]
      have hread : inOrder [c] (run ++ x :: rest) = ([(c, run)], rest) := by
        rw [inOrder_closed _ hrun hx, hdue]
        rfl
      rw [hread]
      refine Prefers.opt ⟨[], ?_⟩
      rw [hways]
      simp [char, Pattern.ways, hxc, Match.append, matchOf, written]
    · -- another letter closes the digits, so the pattern could not go on behind them
      have hdue : due x [c] = [] := by simp [due, Ne.symm hxc]
      have hread : inOrder [c] (run ++ x :: rest) = ([], run ++ x :: rest) := by
        rw [inOrder_closed _ hrun hx, hdue]
      rw [hread]
      refine Pattern.prefers_opt_of_ways_eq_nil ?_
      rw [hways]
      simp [char, Pattern.ways, hxc]

/-- The patterns of components that come in an order rather take what is read in that order. -/
theorem prefers_inOrder (cs : List Component) {ps : List Pattern} {s : List Char} {m : Match}
    (h : (cat ps).Prefers (inOrder cs s).2 m) :
    (cat (cs.map Component.pattern ++ ps)).Prefers s
      ((matchOf (inOrder cs s).1 (inOrder cs s).2).append m) := by
  induction cs generalizing s with
  | nil => exact h
  | cons c cs ih =>
    -- the first component is taken as if it were the only one, and the others behind it
    rw [inOrder_cons c cs s] at h ⊢
    have hboth := (prefers_component c s).seq (ih h)
    rw [← Match.append_assoc, matchOf_append] at hboth
    exact hboth

/-- The way that takes what is read of the clock. -/
def clockMatch (s : List Char) : Match :=
  match clockIn? s with
  | some (found, rest) => { matchOf found rest with taken := 'T' :: written found }
  | none => .empty s

/-- The pattern of the clock rather takes what is read of it. -/
theorem prefers_clock (s : List Char) :
    (Pattern.opt (cat (char 'T' :: Component.clock.map Component.pattern))).Prefers s
      (clockMatch s) := by
  by_cases hs : s.head? = some 'T'
  · cases s with
    | nil => cases hs
    | cons x s =>
      cases hs
      have hnothing : (cat []).Prefers (inOrder Component.clock s).2 _ :=
        Pattern.prefers_nothing _
      have hclock := prefers_inOrder Component.clock hnothing
      rw [List.append_nil, matchOf_append_empty] at hclock
      exact ((Pattern.prefers_char 'T' s).seq hclock).opt
  · rw [clockMatch, clockIn?_of_ne hs]
    refine Pattern.prefers_opt_of_ways_eq_nil ?_
    cases s with
    | nil => rfl
    | cons x s =>
      have hx : x ≠ 'T' := by simpa using hs
      simp [cat, char, Pattern.ways, hx]

/-! ### What is found -/

/-- The match that takes what is read. -/
def Reading.toMatch (r : Reading) : Match :=
  ⟨'P' :: r.text, r.rest, r.found.map fun f => (f.1.number, f.2)⟩

theorem Reading.toMatch_ofText (s : List Char) :
    (ofText s).toMatch =
      (⟨['P'], s, []⟩ : Match).append ((matchOf (inOrder Component.calendar s).1
        (inOrder Component.calendar s).2).append (clockMatch (inOrder Component.calendar s).2)) := by
  simp only [ofText, clockMatch]
  cases clockIn? (inOrder Component.calendar s).2 with
  | none => simp [toMatch, Match.append, Match.empty, matchOf, text, found]
  | some clock => simp [toMatch, Match.append, matchOf, text, found]

theorem prefers_pattern (s : List Char) :
    pattern.Prefers ('P' :: s) (Reading.ofText s).toMatch := by
  -- each part is taken as it rather is, from the last to the first
  have hclock : (cat [_]).Prefers (inOrder Component.calendar s).2 _ :=
    (prefers_clock (inOrder Component.calendar s).2).seq (Pattern.prefers_nothing _)
  have hboth := (Pattern.prefers_char 'P' s).seq (prefers_inOrder Component.calendar hclock)
  rw [Match.append_empty, ← Reading.toMatch_ofText] at hboth
  exact hboth

/-- What the pattern finds is what is read behind the first `P`. -/
theorem find?_pattern {u : List Char} (hu : 'P' ∉ u) (s : List Char) :
    pattern.find? (u ++ 'P' :: s) = some (Reading.ofText s).toMatch := by
  refine (prefers_pattern s).find?_append fun x hx t => ?_
  have hne : x ≠ 'P' := fun h => hu (h ▸ hx)
  simp [pattern, cat, char, Pattern.ways, hne]

/-- Without a `P` nothing is found. -/
theorem find?_pattern_eq_none {s : List Char} (hs : 'P' ∉ s) : pattern.find? s = none := by
  refine Pattern.find?_eq_none rfl fun x hx t => ?_
  have hne : x ≠ 'P' := fun h => hs (h ▸ hx)
  simp [pattern, cat, char, Pattern.ways, hne]

theorem lookup_number (found : List (Component × List Char)) (c : Component) :
    (found.map fun f => (f.1.number, f.2)).lookup c.number = found.lookup c := by
  induction found with
  | nil => rfl
  | cons f found ih =>
    rw [List.map_cons, List.lookup_cons, List.lookup_cons, ih]
    -- groups and components have the same numbers
    by_cases h : c = f.1
    · simp [h]
    · have hnumber : c.number ≠ f.1.number := fun heq => h (Component.number_inj.1 heq)
      simp [beq_false_of_ne h, beq_false_of_ne hnumber]

/-- The groups of the match have the values of what is read. -/
theorem ofMatch_toMatch (r : Reading) : ofMatch r.toMatch = ofValues (valueIn r.found) := by
  have hvalue (c : Component) : groupValue r.toMatch c.number = valueIn r.found c := by
    rw [groupValue, Reading.toMatch, lookup_number, valueIn]
    cases r.found.lookup c with
    | none => rfl
    | some digits => exact (numberValue_eq digits).symm
  rw [ofValues, ← hvalue, ← hvalue, ← hvalue, ← hvalue, ← hvalue, ← hvalue, ← hvalue]
  rfl

/-! ### Where the match ends -/

/-- What is due from a letter on starts with the component of that letter. -/
theorem mem_of_due {cs later : List Component} {x : Char} {c : Component}
    (h : due x cs = c :: later) : c ∈ cs ∧ c.unit = x := by
  induction cs with
  | nil => cases h
  | cons c' cs ih =>
    by_cases hc : c'.unit = x
    · have hdue : due x (c' :: cs) = c' :: cs := by simp [due, hc]
      rw [hdue] at h
      cases h
      exact ⟨List.mem_cons_self, hc⟩
    · have hdue : due x (c' :: cs) = due x cs := by simp [due, hc]
      rw [hdue] at h
      exact ⟨List.mem_cons_of_mem c' (ih h).1, (ih h).2⟩

/-- Whether a letter is that of no component that may come behind some others. -/
def IsOutOfOrder (cs : List Component) (found : List (Component × List Char)) (x : Char) : Prop :=
  ∀ c : Component, c.unit = x → ¬ (found.map Prod.fst ++ [c]).Sublist cs

/-- A component that does not come in order ends the reading. -/
theorem inOrder_of_outOfOrder {cs : List Component} (hunits : (cs.map (·.unit)).Nodup)
    {found : List (Component × List Char)} (h : IsInOrder cs found) {run : List Char}
    (hrun : IsRun run) {x : Char} (hx : isDecimalDigit x = false) (hout : IsOutOfOrder cs found x)
    (rest : List Char) :
    inOrder cs (written found ++ (run ++ x :: rest)) = (found, run ++ x :: rest) := by
  have hdue : due x (dueBehind cs (found.map Prod.fst)) = [] := by
    cases hdue : due x (dueBehind cs (found.map Prod.fst)) with
    | nil => rfl
    | cons c later =>
      obtain ⟨hc, hunit⟩ := mem_of_due hdue
      exact absurd (sublist_of_mem_dueBehind hunits h.sublist hc) (hout c hunit)
  rw [inOrder_written hunits h, inOrder_closed _ hrun hx, hdue, List.append_nil]

/-- Behind an opening components are read as they are written, up to one out of order. -/
theorem Reading.ofText_outOfOrder {before found : List (Component × List Char)}
    {cs : List Component} {opening : List Char} (h : Opening before cs opening)
    (hfound : IsInOrder cs found) {run : List Char} (hrun : IsRun run) {x : Char}
    (hx : isDecimalDigit x = false) (hout : IsOutOfOrder cs found x) (rest : List Char) :
    (ofText (opening ++ (written found ++ (run ++ x :: rest)))).found = before ++ found ∧
      (ofText (opening ++ (written found ++ (run ++ x :: rest)))).text =
        opening ++ written found := by
  have hread := inOrder_of_outOfOrder h.nodup_units hfound hrun hx hout rest
  have hopening := ofText_opening (s := written found ++ (run ++ x :: rest)) h
  rw [hread] at hopening
  exact hopening (hrun.head?_ne rfl _)

/-! ### What stands before the `T` and behind it -/

theorem component?_append_T {unit : Char} (hunit : unit ≠ 'T') {s : List Char} (hs : 'T' ∉ s)
    (k : List Char) :
    component? unit (s ++ 'T' :: k) =
      (component? unit s).map fun f => (f.1, f.2 ++ 'T' :: k) := by
  have hT : isDecimalDigit 'T' = false := rfl
  cases start s with
  | bare hbare =>
    have hbare' : IsBare (s ++ 'T' :: k) := by
      cases s with
      | nil => exact isBare_cons hT k
      | cons y s => exact isBare_cons (hbare y rfl) (s ++ 'T' :: k)
    rw [component?_bare unit hbare, component?_bare unit hbare', Option.map_none]
  | unended hrun =>
    rw [component?_unended unit hrun, component?_closed unit hrun hT, if_neg (Ne.symm hunit),
      Option.map_none]
  | closed hrun hx rest =>
    rw [List.append_assoc, List.cons_append, component?_closed unit hrun hx,
      component?_closed unit hrun hx]
    split <;> rfl

/-- What comes in order before a `T` is read as without it. -/
theorem inOrder_append_T {s : List Char} (hs : 'T' ∉ s) (cs : List Component) (k : List Char) :
    inOrder cs (s ++ 'T' :: k) = ((inOrder cs s).1, (inOrder cs s).2 ++ 'T' :: k) := by
  induction cs generalizing s with
  | nil => rfl
  | cons c cs ih =>
    have hunit : c.unit ≠ 'T' := by cases c <;> decide
    cases h : component? c.unit s with
    | none => simp only [inOrder, component?_append_T hunit hs, h, Option.map_none, ih hs]
    | some f =>
      obtain ⟨run, rest⟩ := f
      -- what is left of the text has no `T` either
      have hrest : 'T' ∉ rest := by
        intro hmem
        rw [eq_of_component? h] at hs
        simp [hmem] at hs
      simp only [inOrder, component?_append_T hunit hs, h, Option.map_some, ih hrest]

/-- A text is made of components in order if nothing is left of it when they are read. -/
theorem exists_written_iff {cs : List Component} (hunits : (cs.map (·.unit)).Nodup)
    (s : List Char) :
    (∃ found, IsInOrder cs found ∧ written found = s) ↔ (inOrder cs s).2 = [] := by
  constructor
  · rintro ⟨found, hfound, rfl⟩
    have hread := inOrder_written hunits hfound []
    rw [List.append_nil, inOrder_nil] at hread
    rw [hread]
  · intro hrest
    have htext := written_inOrder cs s
    rw [hrest, List.append_nil] at htext
    exact ⟨(inOrder cs s).1, isInOrder_inOrder cs s, htext⟩

namespace Reading

theorem found_ofText (s : List Char) :
    (ofText s).found = (inOrder Component.calendar s).1 ++
      ((clockIn? (inOrder Component.calendar s).2).map Prod.fst).getD [] := by
  rw [found, calendar_ofText, clock_ofText]

theorem found_ofText_T (k : List Char) :
    (ofText ('T' :: k)).found = (inOrder Component.clock k).1 := by
  rw [found_ofText, inOrder_bare _ (isBare_cons rfl k)]
  rfl

/-- Without a `T` there is no clock. -/
theorem found_ofText_of_notMem {s : List Char} (hs : 'T' ∉ s) :
    (ofText s).found = (inOrder Component.calendar s).1 := by
  have hrest : (inOrder Component.calendar s).2.head? ≠ some 'T' := fun hT =>
    notMem_rest_inOrder hs _ (List.mem_of_mem_head? hT)
  rw [found_ofText, clockIn?_of_ne hrest]
  simp

/-- Behind the first `T` the clock is read if all before it is of the calendar, and nothing
otherwise. -/
theorem found_ofText_append_T {s : List Char} (hs : 'T' ∉ s) (k : List Char) :
    (ofText (s ++ 'T' :: k)).found = (ofText s).found ++
      if (inOrder Component.calendar s).2 = [] then (ofText ('T' :: k)).found else [] := by
  rw [found_ofText, inOrder_append_T hs, found_ofText_of_notMem hs, found_ofText_T]
  cases hrest : (inOrder Component.calendar s).2 with
  -- behind the calendar stands something else than the `T`, which ends the reading
  | nil => simp [clockIn?]
  | cons x rest =>
    have hx : x ≠ 'T' := by
      rintro rfl
      exact notMem_rest_inOrder hs Component.calendar (by simp [hrest])
    have hnone : clockIn? (x :: (rest ++ 'T' :: k)) = none := clockIn?_of_ne (by simpa using hx)
    simp [hnone]

end Reading

/-! ### Durations of texts -/

theorem parseChars_of_notMem {s : List Char} (hs : 'P' ∉ s) : parseChars s = zero := by
  rw [← List.append_nil s, parseChars_append hs]
  rfl

/-- A duration is that of the match that is found. -/
theorem parseChars_eq_ofMatch (s : List Char) :
    parseChars s = (pattern.find? s).elim zero ofMatch := by
  by_cases hP : 'P' ∈ s
  · -- the first `P` is where the match starts
    obtain ⟨u, t, rfl, hu⟩ := List.eq_append_cons_of_mem hP
    rw [parseChars_eq hu, find?_pattern hu, Option.elim_some, ofMatch_toMatch]
  · rw [parseChars_of_notMem hP, find?_pattern_eq_none hP, Option.elim_none]

/-- A `T` divides a duration: the calendar is that of what stands before it, and the clock is
that of what stands behind it, unless something before it ends the reading. -/
theorem parseChars_divided {u s : List Char} (hu : 'P' ∉ u) (hs : 'T' ∉ s) (k : List Char) :
    let before := parseChars (u ++ 'P' :: s)
    let behind := parseChars ('P' :: 'T' :: k)
    (∀ c ∈ Component.clock, before.get c = 0) ∧ (∀ c ∈ Component.calendar, behind.get c = 0) ∧
    parseChars (u ++ 'P' :: (s ++ 'T' :: k)) =
      if (inOrder Component.calendar s).2 = [] then
        ofValues fun c => if c ∈ Component.clock then behind.get c else before.get c
      else before := by
  have hbehind : parseChars ('P' :: 'T' :: k) = _ := parseChars_eq (u := []) (by simp) ('T' :: k)
  simp only [hbehind, parseChars_eq hu, Reading.found_ofText_append_T hs, Reading.found_ofText_T,
    Reading.found_ofText_of_notMem hs, get_ofValues]
  -- no text gives a component that is not of its part
  have hbefore (c : Component) (hc : c ∈ Component.clock) :
      c ∉ (inOrder Component.calendar s).1.map Prod.fst := notMem_inOrder (Component.mem_clock_iff.1 hc) s
  refine ⟨fun c hc => valueIn_of_notMem (hbefore c hc), fun c hc => ?_, ?_⟩
  · exact valueIn_of_notMem (notMem_inOrder (fun h => Component.mem_clock_iff.1 h hc) k)
  · split
    · refine congrArg ofValues (funext fun c => ?_)
      by_cases hc : c ∈ Component.clock
      · rw [if_pos hc, valueIn_append_of_notMem (hbefore c hc)]
      · rw [if_neg hc, valueIn_append_of_notMem_right (notMem_inOrder hc k)]
    · rw [List.append_nil]

/-- **A duration is that of the match that is found, and one pass finds it.**  It depends on the
text behind the first `P` alone.  Without a `T` behind that it has no clock; otherwise its
calendar is that of the text before the `T` alone, and its clock that of the text behind the `T`,
or none if the text before the `T` is not made of components in order.  A component that does not
come in order ends the match. -/
theorem parse_leftmost (text : String) :
    parse text = (pattern.find? text.toList).elim zero ofMatch ∧
    parse text = (text.toList.foldl Scan.step .initial).duration ∧
    ('P' ∉ text.toList → parse text = zero) ∧
    ∀ u s, text.toList = u ++ 'P' :: s → 'P' ∉ u →
      parse text = parse (String.ofList ('P' :: s)) ∧
      ('T' ∉ s → ∀ c ∈ Component.clock, (parse text).get c = 0) ∧
      (∀ b k, s = b ++ 'T' :: k → 'T' ∉ b →
        let before := parse (String.ofList ('P' :: b))
        let behind := parse (String.ofList ('P' :: 'T' :: k))
        (∀ c ∈ Component.calendar, behind.get c = 0) ∧
        ((∃ found, IsInOrder Component.calendar found ∧ written found = b) →
          parse text = ⟨before.years, before.months, before.weeks, before.days, behind.hours,
            behind.minutes, behind.seconds⟩) ∧
        ((¬ ∃ found, IsInOrder Component.calendar found ∧ written found = b) →
          parse text = before)) ∧
      ∀ before cs opening found run x rest, s = opening ++ (written found ++ (run ++ x :: rest)) →
        Reading.Opening before cs opening → IsInOrder cs found → IsRun run →
        isDecimalDigit x = false → IsOutOfOrder cs found x →
          (pattern.find? text.toList).map (·.taken) = some ('P' :: (opening ++ written found)) ∧
          parse text = parse (String.ofList ('P' :: (opening ++ written found))) := by
  have hnil : 'P' ∉ ([] : List Char) := by simp
  refine ⟨parseChars_eq_ofMatch _, (Scan.duration_foldl _).symm, parseChars_of_notMem, ?_⟩
  intro u s htext hu
  have hparse : parse text = parseChars (u ++ 'P' :: s) := congrArg parseChars htext
  have halone (t : List Char) : parseChars (u ++ 'P' :: t) = parse (String.ofList ('P' :: t)) := by
    rw [parse_ofList, parseChars_append hu]
  refine ⟨hparse.trans (halone s), ?_, ?_, ?_⟩
  · intro hT c hc
    rw [hparse]
    exact (parseChars_divided hu hT []).1 c hc
  · rintro b k rfl hb
    obtain ⟨-, hbehind, hwhole⟩ := parseChars_divided hu hb k
    rw [← hparse, halone b] at hwhole
    rw [exists_written_iff Component.nodup_units_calendar]
    refine ⟨?_, fun hrest => ?_, fun hrest => ?_⟩
    · rw [parse_ofList]
      exact hbehind
    · rw [hwhole, if_pos hrest, parse_ofList ('P' :: 'T' :: k)]
      rfl
    · rw [hwhole, if_neg hrest]
  · rintro before cs opening found run x rest rfl hopening hfound hrun hx hout
    -- the text ends like the one that breaks off before the component out of order
    obtain ⟨hread, htaken⟩ := Reading.ofText_outOfOrder hopening hfound hrun hx hout rest
    constructor
    · rw [htext, find?_pattern hu, Option.map_some, Reading.toMatch, htaken]
    · rw [hparse, parseChars_eq hu, hread, ← halone, parseChars_eq hu,
        Reading.found_ofText_written hopening hfound]

/-- A digit that is not ASCII, months before the `T` and minutes behind it, and hours that come
too late. -/
theorem parse_leftmost_late_hours :
    let text := "aP٣Y2MT5M1H6S"
    parse text = ⟨0, 2, 0, 0, 0, 5, 0⟩ ∧
    (text.toList.foldl Scan.step .initial).duration = ⟨0, 2, 0, 0, 0, 5, 0⟩ ∧
    (pattern.find? text.toList).map (·.taken) = some "P٣Y2MT5M".toList ∧
    parse text = parse "P٣Y2MT5M" := by
  intro text
  obtain ⟨-, hscan, -, hbehind⟩ := parse_leftmost text
  obtain ⟨-, -, -, hlate⟩ := hbehind ['a'] "٣Y2MT5M1H6S".toList (by decide) (by decide)
  have hcalendar : IsInOrder Component.calendar [(.years, ['٣']), (.months, ['2'])] :=
    ⟨by decide, by decide⟩
  have hout : IsOutOfOrder Component.clock [(.minutes, ['5'])] 'H' := by
    intro c hc
    have hhours : c = .hours := by cases c <;> first | rfl | cases hc
    rw [hhours]
    decide
  have hvalue : parse text = ⟨0, 2, 0, 0, 0, 5, 0⟩ := by decide +kernel
  obtain ⟨htaken, hsame⟩ := hlate _ _ _ [(.minutes, ['5'])] ['1'] 'H' ['6', 'S'] rfl
    (.clock hcalendar) ⟨by decide, by decide⟩ (by decide) (by decide) hout
  exact ⟨hvalue, hscan.symm.trans hvalue, htaken, hsame⟩

end VideoPosters.Duration
