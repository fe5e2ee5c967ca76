import VideoPosters.Text.Blank
import VideoPosters.Text.Pieces

/-!
# Words between blanks

The words of a text are its maximal runs of characters that are not blank: in front of each stand
blanks or nothing, and what stands behind it starts with a blank or is empty.  A blank parts a text
into two whose words can be told one after the other, and from that alone it follows that it does
not matter which blanks part two words, or how many.

## Main definitions

* `IsBlanks`, `IsWord` — a text of nothing but blanks, a text without any.
* `HasWords` — what the words of a text are.

## Main results

* `hasWords_iff` — **the reader of words finds just the words of a text.**
* `words_append_cons` — a blank parts the words of a text.
* `words_append_blanks_append` — so do several blanks, whichever they are.
* `words_joinWith` — words with blanks between them are read back.
-/

namespace VideoPosters.Text

/-- Whether a text is nothing but blanks. -/
def IsBlanks (s : List Char) : Prop := s.all isBlank = true

/-- Whether a text is a word: it is not empty, and none of its characters is blank. -/
def IsWord (w : List Char) : Prop := w ≠ [] ∧ w.all (fun c => !isBlank c) = true

/-- What the words of a text are, in order. -/
inductive HasWords : List Char → List (List Char) → Prop where
  /-- There are none among blanks. -/
  | blanks {s : List Char} (hs : IsBlanks s) : HasWords s []
  /-- A word goes on as far as it can: blanks stand before it, and a blank or nothing behind. -/
  | word {gap w rest : List Char} {ws : List (List Char)} (hgap : IsBlanks gap) (hw : IsWord w)
      (hend : rest.head?.all isBlank = true) (hrest : HasWords rest ws) :
      HasWords (gap ++ w ++ rest) (w :: ws)

instance (s : List Char) : Decidable (IsBlanks s) := inferInstanceAs (Decidable (_ = true))

section

variable {c : Char} {s t w gap : List Char} {ws : List (List Char)}

theorem isBlanks_nil : IsBlanks [] := rfl

theorem isBlanks_cons_iff : IsBlanks (c :: s) ↔ isBlank c = true ∧ IsBlanks s := by
  unfold IsBlanks
  rw [List.all_cons, Bool.and_eq_true]

/-! ### The reader of words -/

/-- A blank ends the word that is being read, if there is one. -/
theorem wordsAfter_append_cons (run : List Char) (hc : isBlank c = true) :
    wordsAfter run (s ++ c :: t) = wordsAfter run s ++ words t := by
  -- behind a blank the run is empty again, as it is for a text that is read on its own
  induction s generalizing run with
  | nil =>
    cases run with
    | nil => simp [wordsAfter, words, hc]
    | cons d run => simp [wordsAfter, words, hc]
  | cons d s ih =>
    rw [List.cons_append, wordsAfter, wordsAfter]
    by_cases hd : isBlank d = true
    · rw [if_pos hd, if_pos hd, ih]
      cases run with
      | nil => rfl
      | cons e run => rfl
    · rw [if_neg hd, if_neg hd, ih]

/-- A blank parts the words of a text. -/
theorem words_append_cons (s t : List Char) (hc : isBlank c = true) :
    words (s ++ c :: t) = words s ++ words t :=
  wordsAfter_append_cons [] hc

theorem words_cons_of_isBlank (hc : isBlank c = true) : words (c :: s) = words s :=
  words_append_cons [] s hc

/-- Blanks at the start of a text do not count. -/
theorem words_blanks_append (hgap : IsBlanks gap) : words (gap ++ s) = words s := by
  induction gap with
  | nil => rfl
  | cons c gap ih =>
    obtain ⟨hc, hgap⟩ := isBlanks_cons_iff.1 hgap
    rw [List.cons_append, words_cons_of_isBlank hc, ih hgap]

theorem words_of_isBlanks (hs : IsBlanks s) : words s = [] := by
  have h := words_blanks_append (s := []) hs
  rwa [List.append_nil] at h

/-- Nor do blanks at its end. -/
theorem words_append_blanks (hgap : IsBlanks gap) : words (s ++ gap) = words s := by
  cases gap with
  | nil => rw [List.append_nil]
  | cons c gap =>
    obtain ⟨hc, hgap⟩ := isBlanks_cons_iff.1 hgap
    rw [words_append_cons s gap hc, words_of_isBlanks hgap, List.append_nil]

/-- Several blanks part the words of a text as one does. -/
theorem words_append_blanks_append (hne : gap ≠ []) (hgap : IsBlanks gap) :
    words (s ++ gap ++ t) = words s ++ words t := by
  cases gap with
  | nil => exact absurd rfl hne
  | cons c gap =>
    obtain ⟨hc, hgap⟩ := isBlanks_cons_iff.1 hgap
    rw [List.append_assoc, List.cons_append, words_append_cons s _ hc, words_blanks_append hgap]

/-- Characters that are not blank are added to the word that is being read. -/
theorem wordsAfter_append (run : List Char) (hw : w.all (fun c => !isBlank c) = true) :
    wordsAfter run (w ++ s) = wordsAfter (w.reverse ++ run) s := by
  induction w generalizing run with
  | nil => rfl
  | cons c w ih =>
    rw [List.all_cons, Bool.and_eq_true, Bool.not_eq_true'] at hw
    rw [List.cons_append, wordsAfter, hw.1, if_neg Bool.false_ne_true, ih _ hw.2]
    simp

/-- A word is its only word. -/
theorem words_of_isWord (hw : IsWord w) : words w = [w] := by
  have h := wordsAfter_append (s := []) [] hw.2
  rw [List.append_nil, List.append_nil] at h
  rw [words, h, wordsAfter, List.isEmpty_reverse, if_neg (by simp [hw.1]), List.reverse_reverse]

/-- A word ends at a blank, or at the end of the text. -/
theorem words_append_of_isWord (hw : IsWord w) (hend : s.head?.all isBlank = true) :
    words (w ++ s) = w :: words s := by
  cases s with
  | nil =>
    rw [List.append_nil, words_of_isWord hw]
    rfl
  | cons c s =>
    have hc : isBlank c = true := hend
    rw [words_append_cons w s hc, words_of_isWord hw, words_cons_of_isBlank hc]
    rfl

/-! ### The words of a text -/

theorem HasWords.words_eq (h : HasWords s ws) : words s = ws := by
  induction h with
  | blanks hs => exact words_of_isBlanks hs
  | word hgap hw hend hrest ih =>
    rw [List.append_assoc, words_blanks_append hgap, words_append_of_isWord hw hend, ih]

/-- One more blank in front changes nothing. -/
theorem HasWords.cons (h : HasWords s ws) (hc : isBlank c = true) : HasWords (c :: s) ws := by
  cases h with
  | blanks hs => exact .blanks (isBlanks_cons_iff.2 ⟨hc, hs⟩)
  | @word gap w rest ws hgap hw hend hrest =>
    have hcgap : IsBlanks (c :: gap) := isBlanks_cons_iff.2 ⟨hc, hgap⟩
    exact .word hcgap hw hend hrest

/-- What is read behind the start of a word are the words of the whole. -/
theorem hasWords_wordsAfter (run s : List Char) (hrun : run.all (fun c => !isBlank c) = true) :
    HasWords (run.reverse ++ s) (wordsAfter run s) := by
  -- the induction is on what is still to be read, whatever the run before it
  -- a run that has been read is a word as soon as a blank or the end of the text comes
  have hword : ∀ {run rest : List Char} {ws : List (List Char)}, run ≠ [] →
      run.all (fun c => !isBlank c) = true → rest.head?.all isBlank = true → HasWords rest ws →
      HasWords (run.reverse ++ rest) (run.reverse :: ws) := by
    intro run rest ws hne hrun hend hrest
    have hw : IsWord run.reverse := ⟨by simpa using hne, by rwa [List.all_reverse]⟩
    exact .word isBlanks_nil hw hend hrest
  induction s generalizing run with
  | nil =>
    cases run with
    | nil => exact .blanks isBlanks_nil
    | cons d run => exact hword (List.cons_ne_nil d run) hrun rfl (.blanks isBlanks_nil)
  | cons c s ih =>
    rw [wordsAfter]
    by_cases hc : isBlank c = true
    · have hrest : HasWords (c :: s) (wordsAfter [] s) := (ih [] rfl).cons hc
      rw [if_pos hc]
      cases run with
      | nil => exact hrest
      | cons d run => exact hword (List.cons_ne_nil d run) hrun hc hrest
    · have hnext := ih (c :: run) (by simp [hc, hrun])
      rw [if_neg hc]
      simpa using hnext

/-- **The reader of words finds just the words of a text.** -/
theorem hasWords_iff : HasWords s ws ↔ words s = ws := by
  constructor
  · intro h
    exact h.words_eq
  · rintro rfl
    exact hasWords_wordsAfter [] s rfl

theorem HasWords.isWord_of_mem (h : HasWords s ws) {v : List Char} (hv : v ∈ ws) : IsWord v := by
  induction h with
  | blanks hs => cases hv
  | word hgap hw hend hrest ih =>
    rcases List.mem_cons.1 hv with rfl | hv
    · exact hw
    · exact ih hv

theorem isWord_of_mem_words (h : w ∈ words s) : IsWord w :=
  (hasWords_iff.2 rfl).isWord_of_mem h

/-- A text has no words just if it is nothing but blanks. -/
theorem words_eq_nil_iff : words s = [] ↔ IsBlanks s := by
  constructor
  · intro h
    cases hasWords_iff.2 h with
    | blanks hs => exact hs
  · exact words_of_isBlanks

/-- Words with blanks between them are read back. -/
theorem words_joinWith (hc : isBlank c = true) (h : ∀ w ∈ ws, IsWord w) :
    words (joinWith [c] ws) = ws := by
  induction ws with
  | nil => rfl
  | cons w rest ih =>
    rw [List.forall_mem_cons] at h
    cases rest with
    | nil => exact words_of_isWord h.1
    | cons v rest =>
      rw [joinWith_cons_cons, List.append_assoc, List.singleton_append, words_append_cons w _ hc,
        words_of_isWord h.1, ih h.2, List.singleton_append]

end

end VideoPosters.Text
