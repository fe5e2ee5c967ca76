import VideoPosters.Template.Compile

/-!
# Where marks stand

A mark is a character that stands twice in a row.  A text is cut at the first mark, and
nothing before the cut can be taken for a part of one: the text before it holds no mark
and does not end in the character of the mark.

## Main results

* `splitDouble?_eq_none_iff` — a text is not cut iff it holds no mark.
* `splitDouble?_eq_some_iff` — **what stands around the cut.**
-/

namespace VideoPosters.Template

variable {mark : Char} {s before after : List Char}

/-- A mark in a text of two characters or more stands at its start or behind it. -/
theorem double_infix_cons_cons_iff {c d : Char} {rest : List Char} :
    [mark, mark] <:+: c :: d :: rest ↔ (c = mark ∧ d = mark) ∨ [mark, mark] <:+: d :: rest := by
  rw [List.infix_cons_iff, List.cons_prefix_cons, List.cons_prefix_cons]
  simp only [List.nil_prefix, and_true, eq_comm]

/-- A text is not cut iff it holds no mark. -/
theorem splitDouble?_eq_none_iff : splitDouble? mark s = none ↔ ¬ [mark, mark] <:+: s := by
  fun_induction splitDouble? mark s with
  | case1 c d rest hm => simp [double_infix_cons_cons_iff, hm]
  | case2 c d rest hm ih =>
    rw [Option.map_eq_none_iff, ih, double_infix_cons_cons_iff, or_iff_right hm]
  | case3 s hs =>
    have hlen : s.length < 2 := by
      rcases s with _ | ⟨c, _ | ⟨d, rest⟩⟩
      · exact Nat.zero_lt_two
      · exact Nat.one_lt_two
      · exact absurd rfl (hs c d rest)
    refine iff_of_true rfl fun h => ?_
    have := h.length_le
    rw [List.length_cons, List.length_singleton] at this
    omega

/-- In front of the first mark of a text any text can be put that holds no mark itself,
provided none comes to stand across the seam. -/
theorem splitDouble?_append_of_seam {t : List Char} (hmark : ¬ [mark, mark] <:+: s)
    (hseam : s.getLast? = some mark → t.head? ≠ some mark) :
    splitDouble? mark (s ++ t) =
      (splitDouble? mark t).map fun (before, after) => (s ++ before, after) := by
  induction s with
  | nil => simp
  | cons c s ih =>
    cases s with
    | nil =>
      cases t with
      | nil => simp [splitDouble?]
      | cons d t =>
        have hcd : ¬ (c = mark ∧ d = mark) := by
          rintro ⟨rfl, rfl⟩
          exact hseam rfl rfl
        simp [splitDouble?, hcd]
    | cons d s =>
      rw [double_infix_cons_cons_iff, not_or] at hmark
      have hrest := ih hmark.2 (by simpa using hseam)
      rw [List.cons_append] at hrest
      rw [List.cons_append, List.cons_append, splitDouble?, if_neg hmark.1, hrest,
        Option.map_map]
      rfl

/-- A text without a mark, which does not end in the character of the mark, is what stands
before the first mark of any text that goes on with one. -/
theorem splitDouble?_append (hmark : ¬ [mark, mark] <:+: before)
    (hlast : before.getLast? ≠ some mark) (after : List Char) :
    splitDouble? mark (before ++ mark :: mark :: after) = some (before, after) := by
  rw [splitDouble?_append_of_seam hmark fun h => absurd h hlast]
  simp [splitDouble?]

/-- Before the cut stands no mark. -/
theorem not_double_infix_of_splitDouble? (h : splitDouble? mark s = some (before, after)) :
    ¬ [mark, mark] <:+: before := by
  fun_induction splitDouble? mark s generalizing before after with
  | case1 c d rest hm =>
    obtain ⟨rfl, -⟩ := Prod.mk.inj (Option.some.inj h)
    simp
  | case2 c d rest hm ih =>
    obtain ⟨⟨b, a⟩, hb, he⟩ := Option.map_eq_some_iff.1 h
    obtain ⟨rfl, rfl⟩ := Prod.mk.inj he
    have hs := eq_of_splitDouble? hb
    cases b with
    | nil => intro hi; simpa using hi.length_le
    | cons e b =>
      rw [double_infix_cons_cons_iff, not_or]
      obtain ⟨rfl, -⟩ := List.cons.inj hs
      exact ⟨hm, ih hb⟩
  | case3 => cases h

/-- Before the cut the text does not end in the character of the mark. -/
theorem getLast?_ne_of_splitDouble? (h : splitDouble? mark s = some (before, after)) :
    before.getLast? ≠ some mark := by
  fun_induction splitDouble? mark s generalizing before after with
  | case1 c d rest hm =>
    obtain ⟨rfl, -⟩ := Prod.mk.inj (Option.some.inj h)
    simp
  | case2 c d rest hm ih =>
    obtain ⟨⟨b, a⟩, hb, he⟩ := Option.map_eq_some_iff.1 h
    obtain ⟨rfl, rfl⟩ := Prod.mk.inj he
    have hs := eq_of_splitDouble? hb
    cases b with
    | nil =>
      -- the mark begins right behind `c`, so `c` is not its character
      obtain ⟨rfl, -⟩ := List.cons.inj hs
      intro hc
      exact hm ⟨by simpa using hc, rfl⟩
    | cons e b =>
      rw [List.getLast?_cons_cons]
      exact ih hb
  | case3 => cases h

/-- **What stands around the cut.** -/
theorem splitDouble?_eq_some_iff :
    splitDouble? mark s = some (before, after) ↔
      s = before ++ mark :: mark :: after ∧ ¬ [mark, mark] <:+: before ∧
        before.getLast? ≠ some mark := by
  constructor
  · intro h
    exact ⟨eq_of_splitDouble? h, not_double_infix_of_splitDouble? h, getLast?_ne_of_splitDouble? h⟩
  · rintro ⟨rfl, hmark, hlast⟩
    exact splitDouble?_append hmark hlast after

end VideoPosters.Template
