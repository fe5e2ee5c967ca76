import VideoPosters.Duration
import VideoPosters.Proofs.Template.Expression

/-!
# The components of a duration, read in order

The text behind the `P` of a duration is read as components in the order of the calendar, and
behind a `T` in that of the clock.  A component is a run of decimal digits with the letter of a
unit behind it; what does not come in the order ends the reading.  This file says which digits
are read for which component, before any of them is given a value.

## Main definitions

* `Component`, `Component.unit` — the seven components and their letters.
* `IsRun`, `IsBare`, `Start` — how a text starts, as far as reading a component is concerned.
* `inOrder` — the components at the start of a text, each with its digits.
* `Reading` — all that is read of the text behind a `P`.
* `written` — the text of some components.

## Main results

* `inOrder_closed` — a run of digits goes to the component whose letter stands behind it, if
  that is still due.
* `inOrder_written` — **components that are written in order are read as they are.**
* `afterP_eq` — **a duration has the values of what is read.**
-/

namespace VideoPosters.Duration

open Text (isDecimalDigit)
open Template (numberOf indexValue indexValue_eq_numberOf)

/-- The components of a duration. -/
inductive Component where
  | years
  | months
  | weeks
  | days
  | hours
  | minutes
  | seconds
  deriving DecidableEq, Repr

namespace Component

/-- The letter of a component's unit. -/
def unit : Component → Char
  | years => 'Y'
  | months => 'M'
  | weeks => 'W'
  | days => 'D'
  | hours => 'H'
  | minutes => 'M'
  | seconds => 'S'

/-- The components before the `T`, in order. -/
def calendar : List Component := [years, months, weeks, days]

/-- The components behind the `T`, in order. -/
def clock : List Component := [hours, minutes, seconds]

theorem isDecimalDigit_unit (c : Component) : isDecimalDigit c.unit = false := by
  cases c <;> rfl

theorem nodup_calendar : calendar.Nodup := by decide

theorem nodup_clock : clock.Nodup := by decide

/-- A component is of the calendar or of the clock. -/
theorem mem_clock_iff {c : Component} : c ∈ clock ↔ c ∉ calendar := by
  cases c <;> decide

theorem nodup_units_calendar : (calendar.map unit).Nodup := by decide

theorem nodup_units_clock : (clock.map unit).Nodup := by decide

end Component

/-- The value of a component. -/
def get (d : Duration) : Component → Nat
  | .years => d.years
  | .months => d.months
  | .weeks => d.weeks
  | .days => d.days
  | .hours => d.hours
  | .minutes => d.minutes
  | .seconds => d.seconds

/-- The duration with some values. -/
def ofValues (f : Component → Nat) : Duration :=
  ⟨f .years, f .months, f .weeks, f .days, f .hours, f .minutes, f .seconds⟩

@[simp] theorem get_ofValues (f : Component → Nat) (c : Component) : (ofValues f).get c = f c := by
  cases c <;> rfl

theorem ofValues_get (d : Duration) : ofValues d.get = d := rfl

/-! ### How a text starts -/

/-- Whether a text is a run of decimal digits. -/
def IsRun (run : List Char) : Prop := run ≠ [] ∧ ∀ x ∈ run, isDecimalDigit x = true

instance (run : List Char) : Decidable (IsRun run) :=
  decidable_of_iff (run ≠ [] ∧ run.all isDecimalDigit = true) (by rw [IsRun, List.all_eq_true])

/-- A run of digits starts with no other character. -/
theorem IsRun.head?_ne {run : List Char} (hrun : IsRun run) {x : Char}
    (hx : isDecimalDigit x = false) (s : List Char) : (run ++ s).head? ≠ some x := by
  intro h
  rw [List.head?_append_of_ne_nil _ hrun.1] at h
  have hdigit : isDecimalDigit x = true := hrun.2 x (List.mem_of_mem_head? h)
  rw [hx] at hdigit
  cases hdigit

/-- Whether a text starts with something that is no digit, if it does not end at once. -/
def IsBare (s : List Char) : Prop := ∀ x, s.head? = some x → isDecimalDigit x = false

theorem isBare_nil : IsBare [] := by simp [IsBare]

theorem isBare_cons {x : Char} (hx : isDecimalDigit x = false) (s : List Char) :
    IsBare (x :: s) := by
  rintro y ⟨⟩
  exact hx

/-- How a text starts, as far as reading a component is concerned. -/
inductive Start : List Char → Prop where
  /-- With something that is no digit, if it does not end at once. -/
  | bare {s : List Char} (hs : IsBare s) : Start s
  /-- With a run of digits that nothing follows. -/
  | unended {run : List Char} (hrun : IsRun run) : Start run
  /-- With a run of digits that something else follows. -/
  | closed {run : List Char} (hrun : IsRun run) {x : Char} (hx : isDecimalDigit x = false)
      (rest : List Char) : Start (run ++ x :: rest)

theorem start (s : List Char) : Start s := by
  induction s with
  | nil => exact .bare isBare_nil
  | cons y s ih =>
    by_cases hy : isDecimalDigit y = true
    · have hone : ∀ x ∈ [y], isDecimalDigit x = true := by simp [hy]
      have hcons (run : List Char) (hrun : ∀ x ∈ run, isDecimalDigit x = true) :
          IsRun (y :: run) := ⟨List.cons_ne_nil y run, List.forall_mem_cons.2 ⟨hy, hrun⟩⟩
      cases ih with
      | bare hs =>
        cases s with
        | nil => exact .unended ⟨List.cons_ne_nil y [], hone⟩
        | cons x s => exact .closed (hcons [] (by simp)) (hs x rfl) s
      | unended hrun => exact .unended (hcons _ hrun.2)
      | closed hrun hx rest => exact .closed (hcons _ hrun.2) hx rest
    · exact .bare (isBare_cons (Bool.eq_false_iff.2 hy) s)

theorem takeWhile_run {run : List Char} (hrun : IsRun run) {s : List Char} (hs : IsBare s) :
    (run ++ s).takeWhile isDecimalDigit = run ∧ (run ++ s).dropWhile isDecimalDigit = s := by
  rw [List.takeWhile_append_of_pos hrun.2, List.dropWhile_append_of_pos hrun.2]
  cases s with
  | nil => simp
  | cons x s => simp [hs x rfl]

/-! ### One component -/

/-- The digits of a component at the start of a text, and the text behind its letter. -/
def component? (unit : Char) (s : List Char) : Option (List Char × List Char) :=
  match s.takeWhile isDecimalDigit, s.dropWhile isDecimalDigit with
  | x :: run, u :: rest => if u = unit then some (x :: run, rest) else none
  | _, _ => none

/-- A component has the value of its digits. -/
theorem component_eq (unit : Char) (s : List Char) :
    component unit s = match component? unit s with
      | some (run, rest) => (numberValue run, rest)
      | none => (0, s) := by
  unfold component component?
  cases hrun : s.takeWhile isDecimalDigit with
  | nil => rfl
  | cons x run =>
    cases hrest : s.dropWhile isDecimalDigit with
    | nil => rfl
    | cons u rest =>
      by_cases hu : u = unit
      · simp [hu]
      · simp [hu]

/-- What is read of a component stands at the start of the text. -/
theorem eq_of_component? {unit : Char} {s run rest : List Char}
    (h : component? unit s = some (run, rest)) : s = run ++ unit :: rest := by
  unfold component? at h
  cases hrun : s.takeWhile isDecimalDigit with
  | nil => simp [hrun] at h
  | cons x digits =>
    cases hrest : s.dropWhile isDecimalDigit with
    | nil => simp [hrun, hrest] at h
    | cons u others =>
      simp only [hrun, hrest, Option.ite_none_right_eq_some, Option.some.injEq] at h
      obtain ⟨rfl, h⟩ := h
      cases h
      rw [← hrun, ← hrest, List.takeWhile_append_dropWhile]

theorem component?_bare (unit : Char) {s : List Char} (hs : IsBare s) :
    component? unit s = none := by
  have hrun : s.takeWhile isDecimalDigit = [] := by
    cases s with
    | nil => rfl
    | cons x s => simp [hs x rfl]
  simp only [component?, hrun]

theorem component?_unended (unit : Char) {run : List Char} (hrun : IsRun run) :
    component? unit run = none := by
  have hsplit := takeWhile_run hrun isBare_nil
  rw [List.append_nil] at hsplit
  simp only [component?, hsplit]

theorem component?_closed (unit : Char) {run : List Char} (hrun : IsRun run) {x : Char}
    (hx : isDecimalDigit x = false) (rest : List Char) :
    component? unit (run ++ x :: rest) = if x = unit then some (run, rest) else none := by
  obtain ⟨htake, hdrop⟩ := takeWhile_run hrun (isBare_cons hx rest)
  cases run with
  | nil => exact absurd rfl hrun.1
  | cons y run => simp only [component?, htake, hdrop]

/-! ### Components in order -/

/-- The components at the start of a text that come in an order, each with its digits, and the
text behind them. -/
def inOrder : List Component → List Char → List (Component × List Char) × List Char
  | [], s => ([], s)
  | c :: cs, s =>
    match component? c.unit s with
    | some (run, rest) => ((c, run) :: (inOrder cs rest).1, (inOrder cs rest).2)
    | none => inOrder cs s

/-- The components from the one with a letter on. -/
def due (unit : Char) (cs : List Component) : List Component :=
  cs.dropWhile fun c => c.unit ≠ unit

variable {cs : List Component} {s : List Char}

theorem inOrder_bare (cs : List Component) (hs : IsBare s) : inOrder cs s = ([], s) := by
  induction cs with
  | nil => rfl
  | cons c cs ih => simp only [inOrder, component?_bare c.unit hs, ih]

theorem inOrder_nil (cs : List Component) : inOrder cs [] = ([], []) :=
  inOrder_bare cs isBare_nil

theorem inOrder_unended (cs : List Component) (hrun : IsRun s) : inOrder cs s = ([], s) := by
  induction cs with
  | nil => rfl
  | cons c cs ih => simp only [inOrder, component?_unended c.unit hrun, ih]

/-- A run of digits goes to the component whose letter stands behind it, if that is still due;
otherwise nothing more is read. -/
theorem inOrder_closed (cs : List Component) {run : List Char} (hrun : IsRun run) {x : Char}
    (hx : isDecimalDigit x = false) (rest : List Char) :
    inOrder cs (run ++ x :: rest) = match due x cs with
      | [] => ([], run ++ x :: rest)
      | c :: later => ((c, run) :: (inOrder later rest).1, (inOrder later rest).2) := by
  induction cs with
  | nil => rfl
  | cons c cs ih =>
    by_cases hc : c.unit = x
    · have hdue : due x (c :: cs) = c :: cs := by simp [due, hc]
      simp only [inOrder, component?_closed c.unit hrun hx, if_pos hc.symm, hdue]
    · have hdue : due x (c :: cs) = due x cs := by simp [due, hc]
      simp only [inOrder, component?_closed c.unit hrun hx, if_neg (Ne.symm hc), hdue, ih]

/-- The text of some components. -/
def written : List (Component × List Char) → List Char
  | [] => []
  | (c, run) :: found => run ++ c.unit :: written found

theorem written_append (found more : List (Component × List Char)) :
    written (found ++ more) = written found ++ written more := by
  induction found with
  | nil => rfl
  | cons f found ih => simp [written, ih]

theorem inOrder_cons (c : Component) (cs : List Component) (s : List Char) :
    inOrder (c :: cs) s = ((inOrder [c] s).1 ++ (inOrder cs (inOrder [c] s).2).1,
      (inOrder cs (inOrder [c] s).2).2) := by
  cases h : component? c.unit s with
  | none => simp only [inOrder, h, List.nil_append]
  | some found => simp only [inOrder, h, List.cons_append, List.nil_append]

/-- The first component of an order is read if it stands at the start, and passed by otherwise. -/
theorem inOrder_cons_cases (c : Component) (cs : List Component) (s : List Char) :
    (∃ run rest, IsRun run ∧ s = run ++ c.unit :: rest ∧
      inOrder (c :: cs) s = ((c, run) :: (inOrder cs rest).1, (inOrder cs rest).2)) ∨
    inOrder (c :: cs) s = inOrder cs s := by
  -- the text starts with no digit, with digits alone, or with digits and what closes them
  cases start s with
  | bare hs => exact .inr (by rw [inOrder_bare _ hs, inOrder_bare _ hs])
  | unended hrun => exact .inr (by rw [inOrder_unended _ hrun, inOrder_unended _ hrun])
  | @closed run hrun x hx rest =>
    by_cases hunit : x = c.unit
    · subst hunit
      refine .inl ⟨run, rest, hrun, rfl, ?_⟩
      simp only [inOrder, component?_closed _ hrun hx, if_pos]
    · refine .inr ?_
      simp only [inOrder, component?_closed _ hrun hx, if_neg hunit]

/-- What is read is the start of the text. -/
theorem written_inOrder (cs : List Component) (s : List Char) :
    written (inOrder cs s).1 ++ (inOrder cs s).2 = s := by
  induction cs generalizing s with
  | nil => rfl
  | cons c cs ih =>
    rcases inOrder_cons_cases c cs s with ⟨run, rest, -, rfl, hread⟩ | hread
    · rw [hread, written, List.append_assoc, List.cons_append, ih]
    · rw [hread, ih]

/-- What is left of a text holds nothing that the text does not hold. -/
theorem notMem_rest_inOrder {x : Char} (hx : x ∉ s) (cs : List Component) :
    x ∉ (inOrder cs s).2 := by
  intro hmem
  have hall := List.mem_append_right (written (inOrder cs s).1) hmem
  rw [written_inOrder] at hall
  exact hx hall

/-- The components that are still due behind some others. -/
def dueBehind : List Component → List Component → List Component
  | cs, [] => cs
  | cs, c :: taken => dueBehind (due c.unit cs).tail taken

/-- Components that come in an order, with runs of digits. -/
structure IsInOrder (cs : List Component) (found : List (Component × List Char)) : Prop where
  sublist : (found.map Prod.fst).Sublist cs
  isRun : ∀ f ∈ found, IsRun f.2

theorem isInOrder_nil (cs : List Component) : IsInOrder cs [] :=
  ⟨List.nil_sublist cs, by simp⟩

/-- What is due from a component on starts with it. -/
theorem due_eq_cons {c : Component} {taken : List Component} (hunits : (cs.map (·.unit)).Nodup)
    (h : (c :: taken).Sublist cs) :
    ∃ later, due c.unit cs = c :: later ∧ taken.Sublist later ∧ (later.map (·.unit)).Nodup := by
  induction cs with
  | nil => cases h
  | cons c' cs ih =>
    rw [List.map_cons, List.nodup_cons] at hunits
    cases h with
    | cons _ h =>
      -- a component that is passed by has another letter than all that come later
      have hmem : c.unit ∈ cs.map (·.unit) :=
        List.mem_map_of_mem (h.subset List.mem_cons_self)
      have hne : c'.unit ≠ c.unit := by
        intro heq
        exact hunits.1 (heq ▸ hmem)
      have hdue : due c.unit (c' :: cs) = due c.unit cs := by simp [due, hne]
      rw [hdue]
      exact ih hunits.2 h
    | cons_cons _ h => exact ⟨cs, by simp [due], h, hunits.2⟩

/-- Components that are written in order are read as they are, and behind them those that are
still due. -/
theorem inOrder_written (hunits : (cs.map (·.unit)).Nodup) {found : List (Component × List Char)}
    (h : IsInOrder cs found) (s : List Char) :
    inOrder cs (written found ++ s) = (found ++ (inOrder (dueBehind cs (found.map Prod.fst)) s).1,
      (inOrder (dueBehind cs (found.map Prod.fst)) s).2) := by
  induction found generalizing cs with
  | nil => rfl
  | cons f found ih =>
    obtain ⟨c, run⟩ := f
    obtain ⟨later, hdue, hsub, hunits'⟩ := due_eq_cons hunits h.sublist
    have hrest := ih hunits' ⟨hsub, fun f hf => h.isRun f (List.mem_cons_of_mem _ hf)⟩
    have hrun : IsRun run := h.isRun (c, run) List.mem_cons_self
    rw [written, List.append_assoc, List.cons_append,
      inOrder_closed cs hrun c.isDecimalDigit_unit, hdue]
    simp only [List.map_cons, dueBehind, hdue, List.tail_cons, hrest, List.cons_append]

/-- What is still due comes in order. -/
theorem sublist_of_mem_dueBehind {taken : List Component} {c : Component}
    (hunits : (cs.map (·.unit)).Nodup) (htaken : taken.Sublist cs) (hc : c ∈ dueBehind cs taken) :
    (taken ++ [c]).Sublist cs := by
  induction taken generalizing cs with
  | nil => exact List.singleton_sublist.2 hc
  | cons c' taken ih =>
    -- what is due behind a component lies behind it in the order
    obtain ⟨later, hdue, hsub, hunits'⟩ := due_eq_cons hunits htaken
    rw [dueBehind, hdue, List.tail_cons] at hc
    have hsuffix : (due c'.unit cs).Sublist cs := List.dropWhile_sublist _
    rw [hdue] at hsuffix
    exact ((ih hunits' hsub hc).cons_cons c').trans hsuffix

/-- What is read comes in order. -/
theorem isInOrder_inOrder (cs : List Component) (s : List Char) :
    IsInOrder cs (inOrder cs s).1 := by
  induction cs generalizing s with
  | nil => exact isInOrder_nil []
  | cons c cs ih =>
    rcases inOrder_cons_cases c cs s with ⟨run, rest, hrun, -, hread⟩ | hread
    · rw [hread]
      exact ⟨(ih rest).sublist.cons_cons c, List.forall_mem_cons.2 ⟨hrun, (ih rest).isRun⟩⟩
    · rw [hread]
      exact ⟨(ih s).sublist.cons c, (ih s).isRun⟩

/-! ### The whole reading -/

/-- What is read of the text behind a `P`. -/
structure Reading where
  /-- The components before the `T`. -/
  calendar : List (Component × List Char)
  /-- The components behind the `T`, if there is one. -/
  clock : Option (List (Component × List Char))
  /-- The text behind all that. -/
  rest : List Char

/-- What is read behind the components of the calendar, if it starts with a `T`. -/
def clockIn? : List Char → Option (List (Component × List Char) × List Char)
  | 'T' :: s => some (inOrder Component.clock s)
  | _ => none

theorem clockIn?_of_ne {s : List Char} (hs : s.head? ≠ some 'T') : clockIn? s = none := by
  unfold clockIn?
  split
  · exact absurd rfl hs
  · rfl

namespace Reading

/-- Reads the text behind a `P`. -/
def ofText (s : List Char) : Reading :=
  let (calendar, rest) := inOrder Component.calendar s
  match clockIn? rest with
  | some (clock, rest) => ⟨calendar, some clock, rest⟩
  | none => ⟨calendar, none, rest⟩

theorem calendar_ofText (s : List Char) :
    (ofText s).calendar = (inOrder Component.calendar s).1 := by
  simp only [ofText]
  split <;> rfl

theorem clock_ofText (s : List Char) :
    (ofText s).clock = (clockIn? (inOrder Component.calendar s).2).map Prod.fst := by
  simp only [ofText]
  split
  · next h => rw [h]; rfl
  · next h => rw [h]; rfl

/-- All components that are read. -/
def found (r : Reading) : List (Component × List Char) := r.calendar ++ r.clock.getD []

/-- The text that is read. -/
def text (r : Reading) : List Char :=
  written r.calendar ++ (r.clock.map fun found => 'T' :: written found).getD []

theorem isInOrder_clock (s : List Char) :
    IsInOrder Component.clock ((ofText s).clock.getD []) := by
  rw [clock_ofText]
  unfold clockIn?
  split
  · exact isInOrder_inOrder _ _
  · exact isInOrder_nil _

/-- Where the components of an order begin behind the `P`: those of the calendar at once, and
those of the clock behind some of the calendar and a `T`. -/
inductive Opening : List (Component × List Char) → List Component → List Char → Prop where
  | calendar : Opening [] Component.calendar []
  | clock {before : List (Component × List Char)} (h : IsInOrder Component.calendar before) :
      Opening before Component.clock (written before ++ ['T'])

/-- What is read behind an opening, unless that goes on to a `T`. -/
theorem ofText_opening {before : List (Component × List Char)} {opening : List Char}
    (h : Opening before cs opening) (hs : (inOrder cs s).2.head? ≠ some 'T') :
    (ofText (opening ++ s)).found = before ++ (inOrder cs s).1 ∧
      (ofText (opening ++ s)).text = opening ++ written (inOrder cs s).1 := by
  cases h with
  | calendar =>
    rw [List.nil_append, found, text, clock_ofText, calendar_ofText, clockIn?_of_ne hs]
    simp
  | clock h =>
    -- the clock opens with a `T`, at which the calendar ends
    have hT : IsBare ('T' :: s) := isBare_cons rfl s
    have hread := inOrder_written Component.nodup_units_calendar h ('T' :: s)
    rw [inOrder_bare _ hT, List.append_nil] at hread
    rw [List.append_assoc, List.singleton_append, found, text, clock_ofText, calendar_ofText, hread]
    simp [clockIn?]

theorem Opening.nodup_units {before : List (Component × List Char)} {opening : List Char}
    (h : Opening before cs opening) :
    (cs.map (·.unit)).Nodup := by
  cases h with
  | calendar => exact Component.nodup_units_calendar
  | clock _ => exact Component.nodup_units_clock

/-- Behind an opening components are read as they are written. -/
theorem found_ofText_written {before found : List (Component × List Char)}
    {opening : List Char} (h : Opening before cs opening) (hfound : IsInOrder cs found) :
    (ofText (opening ++ written found)).found = before ++ found := by
  have hread := inOrder_written h.nodup_units hfound []
  rw [List.append_nil, inOrder_nil, List.append_nil] at hread
  have hopening := ofText_opening (s := written found) h
  rw [hread] at hopening
  exact (hopening (by simp)).1

end Reading

/-! ### Values -/

/-- Whether a text is a numeral of ASCII digits. -/
def IsNumeral (digits : List Char) : Prop := digits ≠ [] ∧ ∀ x ∈ digits, x.isDigit = true

instance (digits : List Char) : Decidable (IsNumeral digits) :=
  decidable_of_iff (digits ≠ [] ∧ digits.all Char.isDigit = true)
    (by rw [IsNumeral, List.all_eq_true])

theorem IsNumeral.isRun {digits : List Char} (h : IsNumeral digits) : IsRun digits :=
  ⟨h.1, fun x hx => Text.isDecimalDigit_of_isDigit (h.2 x hx)⟩

theorem decimalValue_eq_numberOf (digits : List Char) : decimalValue digits = numberOf digits :=
  indexValue_eq_numberOf digits

/-- ASCII digits have the value that they write, if it is below `2 ^ 64`; others have none. -/
theorem numberValue_eq (digits : List Char) :
    numberValue digits =
      if digits.all Char.isDigit ∧ numberOf digits < 2 ^ 64 then numberOf digits else 0 := by
  have hle : numberOf digits ≤ greatest ↔ numberOf digits < 2 ^ 64 := Nat.lt_succ_iff.symm
  unfold numberValue
  by_cases hdigits : digits.all Char.isDigit = true
  · simp only [hdigits, true_and, if_true, decimalValue_eq_numberOf, hle]
  · simp only [hdigits, false_and, if_false, Bool.false_eq_true]

/-- The value that some components give to a component. -/
def valueIn (found : List (Component × List Char)) (c : Component) : Nat :=
  ((found.lookup c).map numberValue).getD 0

theorem valueIn_cons (f : Component × List Char) (found : List (Component × List Char))
    (c : Component) :
    valueIn (f :: found) c = if c = f.1 then numberValue f.2 else valueIn found c := by
  rw [valueIn, List.lookup_cons]
  by_cases h : c = f.1
  · simp [h]
  · have hne : (c == f.1) = false := by simp [h]
    simp only [hne, if_neg h, valueIn]

/-- A component that does not occur has no value. -/
theorem valueIn_of_notMem {found : List (Component × List Char)} {c : Component}
    (h : c ∉ found.map Prod.fst) : valueIn found c = 0 := by
  induction found with
  | nil => rfl
  | cons f found ih =>
    rw [List.map_cons, List.mem_cons, not_or] at h
    rw [valueIn_cons, if_neg h.1, ih h.2]

theorem valueIn_append_of_notMem {found : List (Component × List Char)} {c : Component}
    (h : c ∉ found.map Prod.fst) (more : List (Component × List Char)) :
    valueIn (found ++ more) c = valueIn more c := by
  induction found with
  | nil => rfl
  | cons f found ih =>
    rw [List.map_cons, List.mem_cons, not_or] at h
    rw [List.cons_append, valueIn_cons, if_neg h.1, ih h.2]

theorem valueIn_append_of_notMem_right {more : List (Component × List Char)} {c : Component}
    (h : c ∉ more.map Prod.fst) (found : List (Component × List Char)) :
    valueIn (found ++ more) c = valueIn found c := by
  induction found with
  | nil => exact valueIn_of_notMem h
  | cons f found ih => rw [List.cons_append, valueIn_cons, valueIn_cons, ih]

theorem notMem_inOrder {c : Component} (hc : c ∉ cs) (s : List Char) :
    c ∉ (inOrder cs s).1.map Prod.fst :=
  fun h => hc ((isInOrder_inOrder cs s).sublist.subset h)

/-- The first component of an order has the value of its digits, and the others have what they
have behind it. -/
theorem valueIn_inOrder_cons {c : Component} (hc : c ∉ cs) (s : List Char) (c' : Component) :
    valueIn (inOrder (c :: cs) s).1 c' =
      if c' = c then (component c.unit s).1
      else valueIn (inOrder cs (component c.unit s).2).1 c' := by
  rw [inOrder, component_eq]
  cases hread : component? c.unit s with
  | some found => simp only [valueIn_cons]
  | none =>
    by_cases h : c' = c
    · subst h
      simp only [if_pos, valueIn_of_notMem (notMem_inOrder hc s)]
    · simp only [if_neg h]

theorem rest_inOrder_cons (c : Component) (cs : List Component) (s : List Char) :
    (inOrder (c :: cs) s).2 = (inOrder cs (component c.unit s).2).2 := by
  rw [inOrder, component_eq]
  cases component? c.unit s with
  | some found => rfl
  | none => rfl

/-- The values of the components that come in an order, zero for those that are not there, and
the text behind them. -/
def values : List Component → List Char → List Nat × List Char
  | [], s => ([], s)
  | c :: cs, s =>
    let (value, s) := component c.unit s
    let (more, s) := values cs s
    (value :: more, s)

theorem values_eq (hcs : cs.Nodup) (s : List Char) :
    values cs s = (cs.map (valueIn (inOrder cs s).1), (inOrder cs s).2) := by
  induction cs generalizing s with
  | nil => rfl
  | cons c cs ih =>
    rw [List.nodup_cons] at hcs
    have hmore : cs.map (valueIn (inOrder (c :: cs) s).1) =
        cs.map (valueIn (inOrder cs (component c.unit s).2).1) := by
      refine List.map_congr_left fun c' hc' => ?_
      have hne : c' ≠ c := fun h => hcs.1 (h ▸ hc')
      rw [valueIn_inOrder_cons hcs.1, if_neg hne]
    show ((component c.unit s).1 :: (values cs (component c.unit s).2).1,
      (values cs (component c.unit s).2).2) = _
    rw [ih hcs.2, List.map_cons, hmore, valueIn_inOrder_cons hcs.1, if_pos rfl, rest_inOrder_cons]

/-- The clock has the values of what is read behind the `T`. -/
theorem clock_eq (s : List Char) :
    let found := ((clockIn? s).map Prod.fst).getD []
    clock s = (valueIn found .hours, valueIn found .minutes, valueIn found .seconds) := by
  by_cases hs : s.head? = some 'T'
  · cases s with
    | nil => cases hs
    | cons x s =>
      cases hs
      have hvalues := congrArg Prod.fst (values_eq Component.nodup_clock s)
      obtain ⟨hhours, hvalues⟩ := List.cons.inj hvalues
      obtain ⟨hminutes, hvalues⟩ := List.cons.inj hvalues
      obtain ⟨hseconds, -⟩ := List.cons.inj hvalues
      exact Prod.ext hhours (Prod.ext hminutes hseconds)
  · simp only [clockIn?_of_ne hs]
    unfold clock
    split
    · exact absurd rfl hs
    · rfl

/-- A duration has the values of what is read. -/
theorem afterP_eq (s : List Char) : afterP s = ofValues (valueIn (Reading.ofText s).found) := by
  obtain ⟨hvalues, hrest⟩ := Prod.mk.inj (values_eq Component.nodup_calendar s)
  obtain ⟨hyears, hvalues⟩ := List.cons.inj hvalues
  obtain ⟨hmonths, hvalues⟩ := List.cons.inj hvalues
  obtain ⟨hweeks, hvalues⟩ := List.cons.inj hvalues
  obtain ⟨hdays, -⟩ := List.cons.inj hvalues
  have hclock := clock_eq (inOrder Component.calendar s).2
  rw [← Reading.clock_ofText] at hclock
  -- no component comes on both sides of the `T`, so that each side keeps its values
  have hcalendar (c : Component) (hc : c ∉ Component.clock) :
      valueIn (Reading.ofText s).found c = valueIn (inOrder Component.calendar s).1 c := by
    rw [Reading.found, Reading.calendar_ofText]
    exact valueIn_append_of_notMem_right
      (fun h => hc ((Reading.isInOrder_clock s).sublist.subset h)) _
  have hbehind (c : Component) (hc : c ∉ Component.calendar) :
      valueIn (Reading.ofText s).found c = valueIn ((Reading.ofText s).clock.getD []) c := by
    rw [Reading.found, Reading.calendar_ofText]
    exact valueIn_append_of_notMem (notMem_inOrder hc s) _
  calc afterP s
      = ⟨valueIn (inOrder Component.calendar s).1 .years,
          valueIn (inOrder Component.calendar s).1 .months,
          valueIn (inOrder Component.calendar s).1 .weeks,
          valueIn (inOrder Component.calendar s).1 .days,
          (clock (inOrder Component.calendar s).2).1,
          (clock (inOrder Component.calendar s).2).2.1,
          (clock (inOrder Component.calendar s).2).2.2⟩ := by
        rw [← hyears, ← hmonths, ← hweeks, ← hdays, ← hrest]
        rfl
    _ = ofValues (valueIn (Reading.ofText s).found) := by
        rw [hclock, ofValues, hcalendar _ (by decide), hcalendar _ (by decide),
          hcalendar _ (by decide), hcalendar _ (by decide), hbehind _ (by decide),
          hbehind _ (by decide), hbehind _ (by decide)]

/-- A duration depends on the text behind the first `P` alone. -/
theorem parseChars_eq {u : List Char} (hu : 'P' ∉ u) (s : List Char) :
    parseChars (u ++ 'P' :: s) = ofValues (valueIn (Reading.ofText s).found) := by
  rw [parseChars_append hu, parseChars_cons_P, afterP_eq]

theorem parse_ofList (s : List Char) : parse (String.ofList s) = parseChars s :=
  congrArg parseChars String.toList_ofList

end VideoPosters.Duration
