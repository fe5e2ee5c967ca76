/-!
# Cutting a text at a character and joining the pieces

## Main definitions

* `splitAt` — the pieces of a text between the occurrences of a character.
* `joinWith` — texts joined with a separator between neighbours.

## Main results

* `joinWith_splitAt` — **joining undoes splitting.**
* `splitAt_joinWith` — **splitting undoes joining** of pieces without the separator.
* `splitAt_joinWith_eq_flatMap` — joined texts are split one by one, whatever they hold.
-/

namespace VideoPosters.Text

/-- Joins texts with a separator between neighbours. -/
def joinWith (separator : List Char) : List (List Char) → List Char
  | [] => []
  | [s] => s
  | s :: t :: rest => s ++ separator ++ joinWith separator (t :: rest)

@[simp] theorem joinWith_nil (separator : List Char) : joinWith separator [] = [] := rfl

@[simp] theorem joinWith_singleton (separator s : List Char) : joinWith separator [s] = s := rfl

@[simp] theorem joinWith_cons_cons (separator s t : List Char) (rest : List (List Char)) :
    joinWith separator (s :: t :: rest) = s ++ separator ++ joinWith separator (t :: rest) := rfl

/-- A last text is joined behind all others. -/
theorem joinWith_concat (separator : List Char) {pieces : List (List Char)} (hne : pieces ≠ [])
    (s : List Char) :
    joinWith separator (pieces ++ [s]) = joinWith separator pieces ++ separator ++ s := by
  induction pieces with
  | nil => exact absurd rfl hne
  | cons t rest ih =>
    cases rest with
    | nil => rfl
    | cons u rest =>
      have hrest := ih (List.cons_ne_nil u rest)
      rw [List.cons_append] at hrest
      rw [List.cons_append, List.cons_append, joinWith_cons_cons, joinWith_cons_cons, hrest]
      simp only [List.append_assoc]

/-- The pieces of a text between the occurrences of a separating character.
There is always at least one piece. -/
def splitAt (separator : Char) : List Char → List (List Char)
  | [] => [[]]
  | c :: rest =>
    if c = separator then [] :: splitAt separator rest
    else match splitAt separator rest with
      | [] => [[c]]
      | piece :: pieces => (c :: piece) :: pieces

@[simp] theorem splitAt_nil (separator : Char) : splitAt separator [] = [[]] := rfl

/-- Splitting yields at least one piece. -/
theorem splitAt_ne_nil (separator : Char) (s : List Char) : splitAt separator s ≠ [] := by
  cases s with
  | nil => simp
  | cons c rest =>
    rw [splitAt]
    split
    · simp
    · split <;> simp

/-- **Joining undoes splitting.** -/
theorem joinWith_splitAt (separator : Char) (s : List Char) :
    joinWith [separator] (splitAt separator s) = s := by
  induction s with
  | nil => rfl
  | cons c rest ih =>
    rw [splitAt]
    split
    · next h =>
      subst h
      cases hs : splitAt c rest with
      | nil => exact absurd hs (splitAt_ne_nil c rest)
      | cons piece pieces => rw [joinWith_cons_cons, ← hs, ih]; rfl
    · cases hs : splitAt separator rest with
      | nil => exact absurd hs (splitAt_ne_nil separator rest)
      | cons piece pieces =>
        rw [hs] at ih
        cases pieces with
        | nil => simpa using ih
        | cons q qs => simpa using ih

/-- A text without the separator is one piece. -/
theorem splitAt_of_notMem {separator : Char} {s : List Char} (h : separator ∉ s) :
    splitAt separator s = [s] := by
  induction s with
  | nil => rfl
  | cons c rest ih =>
    rw [List.mem_cons, not_or] at h
    rw [splitAt, if_neg (Ne.symm h.1), ih h.2]

/-- A separator ends a piece: what stands before it and what stands after it are split on
their own. -/
theorem splitAt_append_cons (separator : Char) (s rest : List Char) :
    splitAt separator (s ++ separator :: rest) =
      splitAt separator s ++ splitAt separator rest := by
  induction s with
  | nil => simp [splitAt]
  | cons c s ih =>
    rw [List.cons_append, splitAt, splitAt, ih]
    split
    · rfl
    · cases hs : splitAt separator s with
      | nil => exact absurd hs (splitAt_ne_nil separator s)
      | cons piece pieces => rfl

/-- Joined texts are split one by one. -/
theorem splitAt_joinWith_eq_flatMap (separator : Char) {pieces : List (List Char)}
    (hne : pieces ≠ []) :
    splitAt separator (joinWith [separator] pieces) = pieces.flatMap (splitAt separator) := by
  induction pieces with
  | nil => exact absurd rfl hne
  | cons s rest ih =>
    cases rest with
    | nil => simp
    | cons t rest =>
      rw [joinWith_cons_cons, List.append_assoc, List.singleton_append, splitAt_append_cons,
        ih (List.cons_ne_nil t rest), ← List.flatMap_cons]

/-- Splitting texts without the separator leaves them as they are. -/
theorem flatMap_splitAt_of_notMem {separator : Char} {pieces : List (List Char)}
    (h : ∀ s ∈ pieces, separator ∉ s) : pieces.flatMap (splitAt separator) = pieces := by
  induction pieces with
  | nil => rfl
  | cons s rest ih =>
    rw [List.forall_mem_cons] at h
    rw [List.flatMap_cons, splitAt_of_notMem h.1, ih h.2, List.singleton_append]

/-- **Splitting undoes joining** of pieces without the separator. -/
theorem splitAt_joinWith {separator : Char} {pieces : List (List Char)} (hne : pieces ≠ [])
    (h : ∀ s ∈ pieces, separator ∉ s) :
    splitAt separator (joinWith [separator] pieces) = pieces := by
  rw [splitAt_joinWith_eq_flatMap separator hne, flatMap_splitAt_of_notMem h]

/-- No piece holds the separator. -/
theorem notMem_of_mem_splitAt {separator : Char} {s piece : List Char}
    (h : piece ∈ splitAt separator s) : separator ∉ piece := by
  induction s generalizing piece with
  | nil =>
    rw [splitAt_nil, List.mem_singleton] at h
    simp [h]
  | cons c rest ih =>
    rw [splitAt] at h
    split at h
    · next hc =>
      rcases List.mem_cons.1 h with rfl | h
      · simp
      · exact ih h
    · next hc =>
      split at h
      · next hs => exact absurd hs (splitAt_ne_nil separator rest)
      · next first pieces hs =>
        rcases List.mem_cons.1 h with rfl | h
        · have hfirst : separator ∉ first := ih (by rw [hs]; exact List.mem_cons_self)
          rw [List.mem_cons, not_or]
          exact ⟨Ne.symm hc, hfirst⟩
        · exact ih (by rw [hs]; exact List.mem_cons_of_mem first h)

/-- The characters of joined pieces are those of the pieces and of the separator. -/
theorem mem_joinWith {separator : List Char} {pieces : List (List Char)} {c : Char}
    (h : c ∈ joinWith separator pieces) : c ∈ separator ∨ ∃ s ∈ pieces, c ∈ s := by
  induction pieces with
  | nil => simp at h
  | cons s rest ih =>
    cases rest with
    | nil => exact .inr ⟨s, List.mem_cons_self, h⟩
    | cons t rest =>
      rw [joinWith_cons_cons, List.mem_append, List.mem_append] at h
      obtain (h | h) | h := h
      · exact .inr ⟨s, List.mem_cons_self, h⟩
      · exact .inl h
      · obtain hs | ⟨u, hu, hc⟩ := ih h
        · exact .inl hs
        · exact .inr ⟨u, List.mem_cons_of_mem s hu, hc⟩

end VideoPosters.Text
