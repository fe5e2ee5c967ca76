import Mathlib.Data.List.Forall2
import Mathlib.Data.Nat.Digits.Defs
import VideoPosters.Template.Compile

/-!
# How a path is written

Between `{{=` and `}}` a path is written as its segments with dots between them, and
blanks around all of it.  The reader of expressions accepts just what is written so.

## Main definitions

* `Segment.Writes` — how a segment is written.
* `Expression` — how a path is written.

## Main results

* `path?_eq_ok_iff` — **the reader accepts just the expressions.**
* `Expression.notMem_brace` — no expression holds the character that closes a span.
-/

namespace VideoPosters.Template

open Text (trim splitAt joinWith isBlank isLetter isLetterOrNumeral)

/-- The number that ASCII digits write, the first one being the most significant. -/
def numberOf (digits : List Char) : Nat :=
  Nat.ofDigits 10 (digits.reverse.map fun c => c.toNat - '0'.toNat)

/-- How a segment is written: an index by its digits, a key by itself. -/
inductive Segment.Writes : List Char → Segment → Prop where
  | index {digits : List Char} (hne : digits ≠ []) (hdigits : ∀ c ∈ digits, c.isDigit = true)
      (hlt : numberOf digits < 2 ^ 64) : Writes digits (.index (numberOf digits))
  | key {c : Char} {rest : List Char} (hstart : isLetter c = true ∨ c = '_' ∨ c = '$')
      (hrest : ∀ d ∈ rest, isLetterOrNumeral d = true ∨ d = '_' ∨ d = '$' ∨ d = '-') :
      Writes (c :: rest) (.key (c :: rest))

/-- How a path is written: by its segments with dots between them, at least one, and blanks
around all of it. -/
def Expression (text : List Char) (path : List Segment) : Prop :=
  ∃ pieces, pieces ≠ [] ∧ trim text = joinWith ['.'] pieces ∧
    List.Forall₂ Segment.Writes pieces path

/-! ### Segments -/

theorem indexValue_eq_numberOf (digits : List Char) : indexValue digits = numberOf digits := by
  rw [indexValue, numberOf, Nat.ofDigits_eq_foldr, List.foldr_map, List.foldr_reverse]
  congr 1
  funext n c
  exact Nat.add_comm _ _

theorem isKeyStart_eq_true_iff {c : Char} :
    isKeyStart c = true ↔ isLetter c = true ∨ c = '_' ∨ c = '$' := by
  simp only [isKeyStart, Bool.or_eq_true, decide_eq_true_eq, or_assoc]

theorem isKeyRest_eq_true_iff {c : Char} :
    isKeyRest c = true ↔ isLetterOrNumeral c = true ∨ c = '_' ∨ c = '$' ∨ c = '-' := by
  simp only [isKeyRest, Bool.or_eq_true, decide_eq_true_eq, or_assoc]

/-- What starts a key may also continue it. -/
theorem isKeyRest_of_isKeyStart {c : Char} (h : isKeyStart c = true) : isKeyRest c = true := by
  rw [isKeyStart_eq_true_iff] at h
  rw [isKeyRest_eq_true_iff, isLetterOrNumeral, Bool.or_eq_true]
  tauto

/-- No key starts with a digit. -/
theorem isKeyStart_eq_false_of_isDigit {c : Char} (h : c.isDigit = true) :
    isKeyStart c = false := by
  rw [Bool.eq_false_iff, Ne, isKeyStart_eq_true_iff, Text.isLetter_eq_false_of_isDigit h]
  rintro (hl | rfl | rfl)
  · cases hl
  · exact absurd h (by decide)
  · exact absurd h (by decide)

/-- Where a segment is written stand neither dots nor the character that closes a span. -/
theorem Segment.Writes.ne_of_mem {s : List Char} {segment : Segment} (h : segment.Writes s)
    {c : Char} (hc : c ∈ s) : c ≠ '.' ∧ c ≠ '\x7d' := by
  cases h with
  | index hne hdigits hlt =>
    have hdigit := hdigits c hc
    constructor <;> (rintro rfl; exact absurd hdigit (by decide))
  | @key d rest hstart hrest =>
    have hkey : isKeyRest c = true := by
      rcases List.mem_cons.1 hc with rfl | hc
      · exact isKeyRest_of_isKeyStart (isKeyStart_eq_true_iff.2 hstart)
      · exact isKeyRest_eq_true_iff.2 (hrest c hc)
    constructor <;> (rintro rfl; exact absurd hkey (by decide))

/-- A written segment is not empty. -/
theorem Segment.Writes.ne_nil {s : List Char} {segment : Segment} (h : segment.Writes s) :
    s ≠ [] := by
  cases h with
  | index hne hdigits hlt => exact hne
  | key hstart hrest => exact List.cons_ne_nil _ _

/-- The reader accepts just the written segments. -/
theorem segment?_eq_ok_iff {expression s : List Char} {segment : Segment} :
    segment? expression s = .ok segment ↔ segment.Writes s := by
  constructor
  · intro h
    rw [segment?] at h
    -- digits alone are an index, and all else is tried as a key
    split at h
    · next hdigits =>
      rw [Bool.and_eq_true, Bool.not_eq_true', List.isEmpty_eq_false_iff,
        List.all_eq_true] at hdigits
      split at h
      · next hlt =>
        rw [indexValue_eq_numberOf] at h hlt
        obtain rfl := Except.ok.inj h
        exact .index hdigits.1 hdigits.2 hlt
      · cases h
    · split at h
      · next hkey =>
        obtain rfl := Except.ok.inj h
        cases s with
        | nil => cases hkey
        | cons c rest =>
          rw [isKey, Bool.and_eq_true, isKeyStart_eq_true_iff, List.all_eq_true] at hkey
          exact .key hkey.1 fun d hd => isKeyRest_eq_true_iff.1 (hkey.2 d hd)
      · cases h
  · intro h
    cases h with
    | index hne hdigits hlt =>
      have hguard : (!s.isEmpty && s.all Char.isDigit) = true := by
        rw [Bool.and_eq_true, Bool.not_eq_true', List.isEmpty_eq_false_iff, List.all_eq_true]
        exact ⟨hne, hdigits⟩
      have hlt : numberOf s < Nat.pow 2 64 := hlt
      rw [segment?, if_pos hguard, indexValue_eq_numberOf, if_pos hlt]
    | @key c rest hstart hrest =>
      have hdigit : c.isDigit = false := by
        rw [Bool.eq_false_iff]
        intro hd
        have hfalse := isKeyStart_eq_false_of_isDigit hd
        rw [isKeyStart_eq_true_iff.2 hstart] at hfalse
        cases hfalse
      have hkey : isKey (c :: rest) = true := by
        rw [isKey, Bool.and_eq_true, List.all_eq_true]
        exact ⟨isKeyStart_eq_true_iff.2 hstart, fun d hd => isKeyRest_eq_true_iff.2 (hrest d hd)⟩
      rw [segment?, List.all_cons, hdigit, Bool.false_and, Bool.and_false, if_neg (by simp),
        if_pos hkey]

/-! ### Expressions -/

/-- The pieces of an expression are read one by one. -/
theorem segments?_eq_ok_iff {expression : List Char} {pieces : List (List Char)}
    {path : List Segment} :
    segments? expression pieces = .ok path ↔ List.Forall₂ Segment.Writes pieces path := by
  induction pieces generalizing path with
  | nil =>
    rw [List.forall₂_nil_left_iff, segments?, Except.ok.injEq]
    exact eq_comm
  | cons s rest ih =>
    rw [segments?, List.forall₂_cons_left_iff]
    constructor
    · intro h
      split at h
      · cases h
      · next segment hs =>
        split at h
        · cases h
        · next tail hrest =>
          exact ⟨segment, tail, segment?_eq_ok_iff.1 hs, ih.1 hrest, (Except.ok.inj h).symm⟩
    · rintro ⟨segment, tail, hs, hrest, rfl⟩
      rw [segment?_eq_ok_iff.2 hs, ih.2 hrest]

/-- Every written piece of a path is written for some segment. -/
theorem writes_of_mem {pieces : List (List Char)} {path : List Segment}
    (h : List.Forall₂ Segment.Writes pieces path) {s : List Char} (hs : s ∈ pieces) :
    ∃ segment, Segment.Writes s segment := by
  induction h with
  | nil => cases hs
  | cons hw _ ih =>
    rcases List.mem_cons.1 hs with rfl | hs
    · exact ⟨_, hw⟩
    · exact ih hs

/-- Joined pieces of a path are cut at the dots between them. -/
theorem splitAt_pieces {pieces : List (List Char)} {path : List Segment}
    (hne : pieces ≠ []) (h : List.Forall₂ Segment.Writes pieces path) :
    splitAt '.' (joinWith ['.'] pieces) = pieces := by
  refine Text.splitAt_joinWith hne fun s hs hdot => ?_
  obtain ⟨segment, hw⟩ := writes_of_mem h hs
  exact (hw.ne_of_mem hdot).1 rfl

/-- Joined pieces of a path are not empty. -/
theorem joinWith_pieces_ne_nil {pieces : List (List Char)} {path : List Segment}
    (hne : pieces ≠ []) (h : List.Forall₂ Segment.Writes pieces path) :
    joinWith ['.'] pieces ≠ [] := by
  intro hnil
  have hsplit := splitAt_pieces hne h
  rw [hnil, Text.splitAt_nil] at hsplit
  obtain ⟨segment, hw⟩ := writes_of_mem h (s := []) (by rw [← hsplit]; exact List.mem_cons_self)
  exact hw.ne_nil rfl

/-- **The reader accepts just the expressions.** -/
theorem path?_eq_ok_iff {text : List Char} {path : List Segment} :
    path? text = .ok path ↔ Expression text path := by
  constructor
  · intro h
    rw [path?] at h
    split at h
    · cases h
    · refine ⟨splitAt '.' (trim text), Text.splitAt_ne_nil _ _, ?_, segments?_eq_ok_iff.1 h⟩
      exact (Text.joinWith_splitAt '.' (trim text)).symm
  · rintro ⟨pieces, hne, htrim, hpath⟩
    have hnil : (trim text).isEmpty = false := by
      rw [List.isEmpty_eq_false_iff, htrim]
      exact joinWith_pieces_ne_nil hne hpath
    rw [path?]
    simp only [hnil, Bool.false_eq_true, if_false]
    rw [segments?_eq_ok_iff, htrim, splitAt_pieces hne hpath]
    exact hpath

/-- An expression is written for one path only. -/
theorem Expression.path_unique {text : List Char} {path other : List Segment}
    (h : Expression text path) (ho : Expression text other) : path = other := by
  rw [← path?_eq_ok_iff] at h ho
  exact Except.ok.inj (h.symm.trans ho)

/-- No expression holds the character that closes a span. -/
theorem Expression.notMem_brace {text : List Char} {path : List Segment}
    (h : Expression text path) : '\x7d' ∉ text := by
  obtain ⟨pieces, -, htrim, hpath⟩ := h
  intro hmem
  rcases Text.isBlank_or_mem_trim hmem with hblank | hmem
  · exact absurd hblank (by decide)
  · rw [htrim] at hmem
    rcases Text.mem_joinWith hmem with hdot | ⟨s, hs, hc⟩
    · exact absurd hdot (by decide)
    · obtain ⟨segment, hw⟩ := writes_of_mem hpath hs
      exact (hw.ne_of_mem hc).2 rfl

end VideoPosters.Template
