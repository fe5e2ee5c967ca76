import Mathlib.Data.List.Chain
import VideoPosters.Proofs.Template.Layout

/-!
# Printing templates

A template is printed as its literals as they stand and its paths between `{{=` and `}}`.
Not every list of tokens survives this: an empty literal leaves no trace, two literals in a
row become one, and a `{{` inside a literal, or made of its last brace and the span behind
it, is read as the start of a span.  The canonical lists are those in which none of this
can happen.  They are the lists that the compiler yields, and it reads their print back.

## Main definitions

* `IsCanonical` — the token lists that survive printing.
* `print` — the text of a token list.

## Main results

* `expression_written` — a path is written as an expression for it.
* `exists_layout_of_isCanonical` — the print of a canonical list has a sound layout.
* `isCanonical_tokens` — the tokens of a sound layout are canonical.
* `compile_print` — **printing and compiling undo each other on the canonical lists.**
-/

namespace VideoPosters.Template

open Text (isBlank trim joinWith)

/-! ### Canonical token lists -/

/-- Whether a segment can be written: a key that is one, an index below `2 ^ 64`. -/
def Segment.IsWritable : Segment → Prop
  | .key name => isKey name = true
  | .index n => n < 2 ^ 64

/-- Whether a token can be written: a literal that is not empty and holds no `{{`, a path
with at least one segment, all of which can be written. -/
def Token.IsWritable : Token → Prop
  | .literal text => text ≠ [] ∧ ¬ ['\x7b', '\x7b'] <:+: text
  | .interpolate path => path ≠ [] ∧ ∀ segment ∈ path, segment.IsWritable

/-- Whether a token may stand right before another: no literal before a literal, and none
that ends in `{` before a path. -/
def Token.MayPrecede : Token → Token → Prop
  | .literal _, .literal _ => False
  | .literal text, .interpolate _ => text.getLast? ≠ some '\x7b'
  | .interpolate _, _ => True

/-- The token lists that survive printing. -/
structure IsCanonical (tokens : List Token) : Prop where
  writable : ∀ t ∈ tokens, t.IsWritable
  chain : tokens.IsChain Token.MayPrecede

instance (segment : Segment) : Decidable segment.IsWritable :=
  match segment with
  | .key name => inferInstanceAs (Decidable (isKey name = true))
  | .index n => inferInstanceAs (Decidable (n < 2 ^ 64))

instance (t : Token) : Decidable t.IsWritable :=
  match t with
  | .literal text => inferInstanceAs (Decidable (text ≠ [] ∧ ¬ ['\x7b', '\x7b'] <:+: text))
  | .interpolate path =>
    inferInstanceAs (Decidable (path ≠ [] ∧ ∀ segment ∈ path, segment.IsWritable))

instance (t u : Token) : Decidable (t.MayPrecede u) :=
  match t, u with
  | .literal _, .literal _ => inferInstanceAs (Decidable False)
  | .literal text, .interpolate _ => inferInstanceAs (Decidable (text.getLast? ≠ some '\x7b'))
  | .interpolate _, _ => inferInstanceAs (Decidable True)

/-! ### Printing -/

/-- The text of a segment. -/
def Segment.written : Segment → List Char
  | .key name => name
  | .index n => Decimal.numeral n

/-- The text of a path: its segments with dots between them. -/
def writtenPath (path : List Segment) : List Char := joinWith ['.'] (path.map Segment.written)

/-- The text of a token: a literal as it stands, a path between the marks of a span. -/
def Token.written : Token → List Char
  | .literal text => text
  | .interpolate path => ['\x7b', '\x7b', '='] ++ writtenPath path ++ ['\x7d', '\x7d']

/-- The text of a token list. -/
def written (tokens : List Token) : List Char := tokens.flatMap Token.written

/-- The text of a token list as a string. -/
def print (tokens : List Token) : String := String.ofList (written tokens)

@[simp] theorem written_nil : written [] = [] := rfl

@[simp] theorem written_cons (t : Token) (tokens : List Token) :
    written (t :: tokens) = t.written ++ written tokens := rfl

/-! ### Segments and paths -/

/-- The blank characters. -/
def blanks : List Nat :=
  [9, 10, 11, 12, 13, 0x20, 0x85, 0xA0, 0x1680, 0x2000, 0x2001, 0x2002, 0x2003, 0x2004, 0x2005,
    0x2006, 0x2007, 0x2008, 0x2009, 0x200A, 0x2028, 0x2029, 0x202F, 0x205F, 0x3000]

theorem toNat_mem_blanks {c : Char} (h : isBlank c = true) : c.toNat ∈ blanks := by
  simp only [isBlank, Bool.or_eq_true, Bool.and_eq_true, decide_eq_true_eq, beq_iff_eq] at h
  simp only [blanks, List.mem_cons, List.not_mem_nil, or_false]
  omega

/-- No blank belongs to a key. -/
theorem isBlank_eq_false_of_isKeyRest {c : Char} (h : isKeyRest c = true) : isBlank c = false := by
  -- there are few enough blanks to look at all of them
  have hnone : ∀ n ∈ blanks, isKeyRest (Char.ofNat n) = false := by decide +kernel
  rw [Bool.eq_false_iff]
  intro hblank
  have hfalse := hnone c.toNat (toNat_mem_blanks hblank)
  rw [Char.ofNat_toNat, h] at hfalse
  cases hfalse

/-- Where a segment is written stand no blanks. -/
theorem Segment.Writes.isBlank_eq_false {s : List Char} {segment : Segment}
    (h : Segment.Writes s segment) {c : Char} (hc : c ∈ s) : isBlank c = false := by
  apply isBlank_eq_false_of_isKeyRest
  cases h with
  | index hne hdigits hlt =>
    -- a digit is a numeral, which a key may go on with
    have hnumeral : Text.isNumeral c = true := by
      have hdigit := hdigits c hc
      have hrange : 48 ≤ c.toNat ∧ c.toNat ≤ 57 := Char.isDigit_iff_toNat.1 hdigit
      rw [Text.isNumeral, if_pos (by omega), hdigit]
    rw [isKeyRest_eq_true_iff, Text.isLetterOrNumeral, hnumeral, Bool.or_true]
    exact .inl rfl
  | @key d rest hstart hrest =>
    rcases List.mem_cons.1 hc with rfl | hc
    · exact isKeyRest_of_isKeyStart (isKeyStart_eq_true_iff.2 hstart)
    · exact isKeyRest_eq_true_iff.2 (hrest c hc)

theorem numberOf_numeral (n : Nat) : numberOf (Decimal.numeral n) = n := by
  rw [← indexValue_eq_numberOf]
  exact Nat.ofDigitChars_ten_toDigits

/-- A segment that can be written is written as its text. -/
theorem writes_written {segment : Segment} (h : segment.IsWritable) :
    Segment.Writes segment.written segment := by
  cases segment with
  | key name =>
    cases name with
    | nil => cases h
    | cons c rest =>
      have hkey : isKey (c :: rest) = true := h
      rw [isKey, Bool.and_eq_true, isKeyStart_eq_true_iff, List.all_eq_true] at hkey
      exact .key hkey.1 fun d hd => isKeyRest_eq_true_iff.1 (hkey.2 d hd)
  | index n =>
    have hlt : numberOf (Decimal.numeral n) < 2 ^ 64 := by
      rw [numberOf_numeral]
      exact h
    have hwrites : Segment.Writes (Decimal.numeral n) (.index (numberOf (Decimal.numeral n))) :=
      .index Nat.toDigits_ne_nil
        (fun c hc => Nat.isDigit_of_mem_toDigits (by omega) (by omega) hc) hlt
    rw [numberOf_numeral] at hwrites
    exact hwrites

/-- What is written is a segment that can be written. -/
theorem Segment.Writes.isWritable {s : List Char} {segment : Segment}
    (h : Segment.Writes s segment) : segment.IsWritable := by
  cases h with
  | index hne hdigits hlt => exact hlt
  | key hstart hrest =>
    show isKey _ = true
    rw [isKey, Bool.and_eq_true, isKeyStart_eq_true_iff, List.all_eq_true]
    exact ⟨hstart, fun d hd => isKeyRest_eq_true_iff.2 (hrest d hd)⟩

/-- A path is written as an expression for it. -/
theorem expression_written {path : List Segment} (hne : path ≠ [])
    (h : ∀ segment ∈ path, segment.IsWritable) : Expression (writtenPath path) path := by
  have hwrites : List.Forall₂ Segment.Writes (path.map Segment.written) path := by
    rw [List.forall₂_map_left_iff, List.forall₂_same]
    intro segment hsegment
    exact writes_written (h segment hsegment)
  refine ⟨path.map Segment.written, by simpa using hne, Text.trim_eq_self fun c hc => ?_, hwrites⟩
  rcases Text.mem_joinWith hc with hdot | ⟨s, hs, hcs⟩
  · rw [List.mem_singleton.1 hdot]
    rfl
  · obtain ⟨segment, hw⟩ := writes_of_mem hwrites hs
    exact hw.isBlank_eq_false hcs

/-- An expression is for a path that can be written. -/
theorem Expression.isWritable {text : List Char} {path : List Segment} (h : Expression text path) :
    Token.IsWritable (.interpolate path) := by
  obtain ⟨pieces, hne, -, hwrites⟩ := h
  constructor
  · rintro rfl
    exact hne (List.forall₂_nil_right_iff.1 hwrites)
  · clear hne
    induction hwrites with
    | nil => simp
    | cons hw _ ih =>
      intro segment hsegment
      rcases List.mem_cons.1 hsegment with rfl | hsegment
      · exact hw.isWritable
      · exact ih segment hsegment

/-! ### Canonical lists token by token -/

namespace IsCanonical

theorem nil : IsCanonical [] := ⟨by simp, List.isChain_nil⟩

/-- Putting a token in front of a canonical list. -/
theorem cons_iff {t : Token} {tokens : List Token} :
    IsCanonical (t :: tokens) ↔
      t.IsWritable ∧ (∀ u ∈ tokens.head?, t.MayPrecede u) ∧ IsCanonical tokens := by
  constructor
  · rintro ⟨hwritable, hchain⟩
    rw [List.forall_mem_cons] at hwritable
    rw [List.isChain_cons] at hchain
    exact ⟨hwritable.1, hchain.1, hwritable.2, hchain.2⟩
  · rintro ⟨hw, hprecede, hwritable, hchain⟩
    exact ⟨List.forall_mem_cons.2 ⟨hw, hwritable⟩, List.isChain_cons.2 ⟨hprecede, hchain⟩⟩

/-- A path may stand before any canonical list. -/
theorem interpolate_cons_iff {path : List Segment} {tokens : List Token} :
    IsCanonical (.interpolate path :: tokens) ↔
      Token.IsWritable (.interpolate path) ∧ IsCanonical tokens := by
  have hprecede : ∀ u ∈ tokens.head?, (Token.interpolate path).MayPrecede u := fun _ _ => trivial
  rw [cons_iff, and_iff_right hprecede]

/-- A literal may stand before nothing, or before a path if it does not end in a brace. -/
theorem literal_append {text : List Char} (hmark : ¬ ['\x7b', '\x7b'] <:+: text)
    {tokens : List Token} (h : IsCanonical tokens)
    (hprecede : ∀ u ∈ tokens.head?, (Token.literal text).MayPrecede u) :
    IsCanonical (literalToken text ++ tokens) := by
  by_cases hne : text = []
  · simpa [hne, literalToken] using h
  · have hliteral : literalToken text = [.literal text] := by simp [literalToken, hne]
    rw [hliteral, List.singleton_append, cons_iff]
    exact ⟨⟨hne, hmark⟩, hprecede, h⟩

end IsCanonical

/-! ### Canonical lists and sound layouts -/

/-- The tokens of a sound layout are canonical. -/
theorem isCanonical_tokens {before : List Char} {spans : List Span}
    (h : Layout.IsSound ⟨before, spans⟩) : IsCanonical (Layout.tokens ⟨before, spans⟩) := by
  induction spans generalizing before with
  | nil =>
    have hmark := Layout.isSound_nil_iff.1 h
    have htokens : Layout.tokens ⟨before, []⟩ = literalToken before ++ [] := by
      simp [Layout.tokens]
    rw [htokens]
    exact .literal_append hmark .nil (by simp)
  | cons s rest ih =>
    obtain ⟨hmark, hbrace, hexpr, hrest⟩ := Layout.isSound_cons_iff.1 h
    have htail : IsCanonical (.interpolate s.path :: Layout.tokens ⟨s.after, rest⟩) :=
      IsCanonical.interpolate_cons_iff.2 ⟨hexpr.isWritable, ih hrest⟩
    rw [Layout.tokens_cons]
    -- the literal stands before a path, so all that is asked of it is not to end in a brace
    refine .literal_append hmark htail fun u hu => ?_
    obtain rfl : .interpolate s.path = u := by simpa using hu
    exact hbrace

/-- The first token of a layout is its first text, unless that is empty. -/
theorem Layout.head?_tokens {before : List Char} (hne : before ≠ []) (spans : List Span) :
    (tokens ⟨before, spans⟩).head? = some (.literal before) := by
  simp [tokens, literalToken, hne]

/-- The print of a canonical list has a sound layout with its tokens. -/
theorem exists_layout_of_isCanonical {tokens : List Token} (h : IsCanonical tokens) :
    ∃ l : Layout, l.IsSound ∧ l.text = written tokens ∧ l.tokens = tokens := by
  induction tokens with
  | nil => exact ⟨⟨[], []⟩, Layout.isSound_nil_iff.2 (by simp), rfl, rfl⟩
  | cons t tokens ih =>
    obtain ⟨hw, hprecede, htail⟩ := IsCanonical.cons_iff.1 h
    obtain ⟨⟨before, spans⟩, hsound, htext, htokens⟩ := ih htail
    cases t with
    | interpolate path =>
      have hexpr := expression_written hw.1 hw.2
      refine ⟨⟨[], ⟨writtenPath path, path, before⟩ :: spans⟩, ?_, ?_, ?_⟩
      · exact Layout.isSound_cons_iff.2 ⟨by simp, by simp, hexpr, hsound⟩
      · rw [Layout.text_cons, written_cons, ← htext]
        simp [Token.written]
      · rw [Layout.tokens_cons, htokens]
        rfl
    | literal text =>
      -- the list goes on with a path or not at all, so its layout starts with nothing
      have hempty : before = [] := by
        by_contra hne
        have hfirst := Layout.head?_tokens hne spans
        rw [htokens] at hfirst
        exact hprecede (.literal before) hfirst
      subst hempty
      refine ⟨⟨text, spans⟩, ?_, ?_, ?_⟩
      · cases spans with
        | nil => exact Layout.isSound_nil_iff.2 hw.2
        | cons s rest =>
          obtain ⟨-, -, hexpr, hrest⟩ := Layout.isSound_cons_iff.1 hsound
          have hbrace : text.getLast? ≠ some '\x7b' := by
            rw [← htokens, Layout.tokens_cons] at hprecede
            exact hprecede (.interpolate s.path) rfl
          exact Layout.isSound_cons_iff.2 ⟨hw.2, hbrace, hexpr, hrest⟩
      · rw [written_cons, ← htext]
        rfl
      · have hliteral : literalToken text = [.literal text] := by simp [literalToken, hw.1]
        rw [← htokens, Layout.tokens, hliteral]
        rfl

/-- The compiler yields canonical lists, reads the print of each of them back, and so yields
all of them; and no two of them print alike.  **Printing and compiling undo each other on
the canonical lists.** -/
theorem compile_print :
    (∀ text tokens, compile text = .ok tokens → IsCanonical tokens) ∧
    (∀ tokens, IsCanonical tokens → compile (print tokens) = .ok tokens) ∧
    (∀ tokens, (∃ text, compile text = .ok tokens) ↔ IsCanonical tokens) ∧
    (∀ tokens tokens', IsCanonical tokens → IsCanonical tokens' →
      print tokens = print tokens' → tokens = tokens') := by
  have hcanonical : ∀ text tokens, compile text = .ok tokens → IsCanonical tokens := by
    intro text tokens h
    -- what compiles has a sound layout, and what is printed of a canonical list is one
    obtain ⟨⟨before, spans⟩, hsound, -, rfl⟩ := compileAt_eq_ok_iff.1 h
    exact isCanonical_tokens hsound
  have hprint : ∀ tokens, IsCanonical tokens → compile (print tokens) = .ok tokens := by
    intro tokens h
    obtain ⟨l, hsound, htext, htokens⟩ := exists_layout_of_isCanonical h
    refine compileAt_eq_ok_iff.2 ⟨l, hsound, ?_, htokens⟩
    rw [print, String.toList_ofList, htext]
  refine ⟨hcanonical, hprint, fun tokens => ⟨?_, ?_⟩, fun tokens tokens' h h' heq => ?_⟩
  · rintro ⟨text, htext⟩
    exact hcanonical text tokens htext
  · intro h
    exact ⟨print tokens, hprint tokens h⟩
  · have hread := hprint tokens h
    rw [heq, hprint tokens' h'] at hread
    exact (Except.ok.inj hread).symm

/-- A list with stray marks next to its spans, a key of all kinds of characters and a long
index. -/
theorem compile_print_stray_marks :
    let tokens : List Token := [.literal ['\x7b', '\x7d', '='],
      .interpolate [.key ['$', 'é', '-', '1'], .index 18446744073709551615],
      .interpolate [.index 0], .literal ['\x7d', '\x7b']]
    IsCanonical tokens ∧
    print tokens =
      "\x7b\x7d=\x7b\x7b=$é-1.18446744073709551615\x7d\x7d\x7b\x7b=0\x7d\x7d\x7d\x7b" ∧
    compile (print tokens) = .ok tokens := by
  intro tokens
  have hcanonical : IsCanonical tokens := ⟨by decide +kernel, by decide⟩
  exact ⟨hcanonical, by decide +kernel, compile_print.2.1 tokens hcanonical⟩

end VideoPosters.Template
