import VideoPosters.Proofs.Duration.Components

/-!
# Reading a duration in one pass

A duration can be read from left to right without looking ahead or going back: what is known of
the characters that have come is which components are still due and which digits wait for a
letter.

## Main definitions

* `Scan`, `Scan.step` — what is known of a text so far, and what a character adds.

## Main results

* `Scan.found_foldl` — from where components may come, the pass finds what is read in order.
* `Scan.duration_foldl` — **the pass over a text ends with its duration.**
-/

namespace VideoPosters.Duration

open Text (isDecimalDigit)

/-- Where a pass over a text stands. -/
inductive Stage where
  /-- No `P` has come. -/
  | seeking
  /-- Some components are due, and some digits wait for the letter of one of them. -/
  | within (isClock : Bool) (due : List Component) (digits : List Char)
  /-- Something has come that ends the reading. -/
  | ended
  deriving DecidableEq, Repr

/-- What is known of the characters of a text that have come. -/
structure Scan where
  stage : Stage
  /-- The components that have come, each with its digits. -/
  found : List (Component × List Char)
  deriving DecidableEq, Repr

namespace Scan

/-- Before the first character. -/
def initial : Scan := ⟨.seeking, []⟩

/-- What one more character adds. -/
def step (scan : Scan) (x : Char) : Scan :=
  match scan.stage with
  | .seeking =>
    if x = 'P' then { scan with stage := .within false Component.calendar [] } else scan
  | .within isClock cs digits =>
    if isDecimalDigit x then { scan with stage := .within isClock cs (digits ++ [x]) }
    else if digits = [] then
      if x = 'T' ∧ isClock = false then
        { scan with stage := .within true Component.clock [] }
      else { scan with stage := .ended }
    else match due x cs with
      | [] => { scan with stage := .ended }
      | c :: later => ⟨.within isClock later [], scan.found ++ [(c, digits)]⟩
  | .ended => scan

/-- The duration whose components have come. -/
def duration (scan : Scan) : Duration := ofValues (valueIn scan.found)

variable {found : List (Component × List Char)} {isClock : Bool} {cs : List Component}

/-- Nothing is found after the end. -/
theorem foldl_ended (s : List Char) (found : List (Component × List Char)) :
    s.foldl step ⟨.ended, found⟩ = ⟨.ended, found⟩ := by
  induction s with
  | nil => rfl
  | cons x s ih => exact ih

theorem step_digit {x : Char} (hx : isDecimalDigit x = true) (digits : List Char) :
    step ⟨.within isClock cs digits, found⟩ x = ⟨.within isClock cs (digits ++ [x]), found⟩ := by
  simp only [step, hx, if_pos]

/-- Digits wait for a letter. -/
theorem foldl_digits {run : List Char} (hrun : ∀ x ∈ run, isDecimalDigit x = true)
    (digits s : List Char) :
    (run ++ s).foldl step ⟨.within isClock cs digits, found⟩ =
      s.foldl step ⟨.within isClock cs (digits ++ run), found⟩ := by
  induction run generalizing digits with
  | nil => rw [List.nil_append, List.append_nil]
  | cons x run ih =>
    have hx : isDecimalDigit x = true := hrun x List.mem_cons_self
    rw [List.cons_append, List.foldl_cons, step_digit hx,
      ih fun y hy => hrun y (List.mem_cons_of_mem x hy), List.append_assoc, List.singleton_append]

/-- A letter behind some digits. -/
theorem step_unit {x : Char} (hx : isDecimalDigit x = false) {digits : List Char}
    (hne : digits ≠ []) :
    step ⟨.within isClock cs digits, found⟩ x = match due x cs with
      | [] => ⟨.ended, found⟩
      | c :: later => ⟨.within isClock later [], found ++ [(c, digits)]⟩ := by
  simp only [step, hx, if_neg hne]
  rfl

/-- Something without digits in front of it. -/
theorem step_bare {x : Char} (hx : isDecimalDigit x = false) :
    step ⟨.within isClock cs [], found⟩ x =
      if x = 'T' ∧ isClock = false then ⟨.within true Component.clock [], found⟩
      else ⟨.ended, found⟩ := by
  simp only [step, hx, if_pos]
  rfl

/-- What is found behind the components that are due: those of the clock, if they may come. -/
def behind (isClock : Bool) (s : List Char) : List (Component × List Char) :=
  if isClock then [] else ((clockIn? s).map Prod.fst).getD []

theorem behind_of_ne (isClock : Bool) {s : List Char} (hs : s.head? ≠ some 'T') :
    behind isClock s = [] := by
  rw [behind, clockIn?_of_ne hs]
  cases isClock <;> rfl

/-- From where components may come, the pass finds what is read in order. -/
theorem found_foldl (s : List Char) (isClock : Bool) (cs : List Component)
    (found : List (Component × List Char)) :
    (s.foldl step ⟨.within isClock cs [], found⟩).found =
      found ++ (inOrder cs s).1 ++ behind isClock (inOrder cs s).2 := by
  -- on the length, since a component takes all its digits and its letter at once
  induction hn : s.length using Nat.strong_induction_on generalizing s isClock cs found with
  | _ n ih =>
    subst hn
    cases start s with
    | bare hs =>
      rw [inOrder_bare cs hs]
      cases s with
      | nil =>
        have hnone : behind isClock [] = [] := behind_of_ne isClock (by simp)
        rw [hnone, List.append_nil, List.append_nil]
        rfl
      | cons x s =>
        rw [List.foldl_cons, step_bare (hs x rfl)]
        by_cases hT : x = 'T' ∧ isClock = false
        · -- the clock begins
          obtain ⟨rfl, rfl⟩ := hT
          have hclock := ih s.length (Nat.lt_succ_self _) s true Component.clock found rfl
          rw [if_pos ⟨rfl, rfl⟩, hclock]
          simp [behind, clockIn?]
        · have hnone : behind isClock (x :: s) = [] := by
            cases isClock with
            | true => rfl
            | false => exact behind_of_ne _ (by simpa using hT)
          rw [if_neg hT, foldl_ended, hnone, List.append_nil, List.append_nil]
    | unended hrun =>
      have hT : s.head? ≠ some 'T' := by simpa using hrun.head?_ne rfl []
      have hnone : behind isClock s = [] := behind_of_ne isClock hT
      have hdigits : s.foldl step ⟨.within isClock cs [], found⟩ =
          ⟨.within isClock cs s, found⟩ := by
        rw [← List.append_nil s, foldl_digits hrun.2]
        simp
      rw [inOrder_unended cs hrun, hdigits, hnone, List.append_nil, List.append_nil]
    | @closed run hrun x hx rest =>
      rw [foldl_digits hrun.2, List.nil_append, List.foldl_cons, step_unit hx hrun.1,
        inOrder_closed cs hrun hx]
      cases hdue : due x cs with
      | nil =>
        have hnone : behind isClock (run ++ x :: rest) = [] :=
          behind_of_ne isClock (hrun.head?_ne rfl _)
        simp only [foldl_ended, hnone, List.append_nil]
      | cons c later =>
        have hshorter : rest.length < (run ++ x :: rest).length := by
          rw [List.length_append, List.length_cons]
          omega
        have hlater := ih rest.length hshorter rest isClock later (found ++ [(c, run)]) rfl
        simp only [hlater, List.append_assoc, List.cons_append, List.nil_append]

/-- The pass over a text ends with its duration. -/
theorem duration_foldl (s : List Char) : (s.foldl step initial).duration = parseChars s := by
  induction s with
  | nil => rfl
  | cons x s ih =>
    by_cases hx : x = 'P'
    · subst hx
      have hfound := found_foldl s false Component.calendar []
      rw [parseChars_cons_P, afterP_eq, Reading.found, Reading.calendar_ofText,
        Reading.clock_ofText]
      exact congrArg (fun found => ofValues (valueIn found)) hfound
    · rw [List.foldl_cons, parseChars, if_neg hx, ← ih]
      simp only [step, initial, if_neg hx]

end Scan

end VideoPosters.Duration
