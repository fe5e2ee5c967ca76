import Mathlib.Logic.ExistsUnique
import VideoPosters.Proofs.Outcome
import VideoPosters.Proofs.Template.Expression
import VideoPosters.Proofs.Template.Marks

/-!
# Layouts of templates

A layout cuts a text into spans `{{=` … `}}` and the texts around them.  It is sound if
the cuts cannot be made elsewhere: no text around the spans holds `{{`, none before a
span ends in `{`, and each span holds an expression.  The compiler accepts a text iff the
text has a sound layout; the layout is then the only one, and it says all there is to say
about the template.

## Main definitions

* `Span`, `Layout` — a text cut into spans and the texts around them.
* `Layout.IsSound` — whether the cuts cannot be made elsewhere.
* `Layout.tokens`, `Layout.filled` — the tokens of a layout, and its text with the spans
  filled from a value.

## Main results

* `compileAt_eq_ok_iff` — the compiler accepts just the texts with a sound layout.
* `Layout.eq_of_text_eq` — a text has one sound layout at most.
* `compile_iff_layout` — **both together, with what the template renders to.**
-/

namespace VideoPosters.Template

open Text.Utf8 (size)

/-- A span, and the text behind it up to the next one. -/
structure Span where
  /-- What stands between `{{=` and `}}`. -/
  expression : List Char
  /-- The path for which that is written. -/
  path : List Segment
  after : List Char
  deriving DecidableEq, Repr

/-- A text cut into spans and the texts around them. -/
structure Layout where
  before : List Char
  spans : List Span
  deriving DecidableEq, Repr

/-- The text that is shown for a path: nothing where it leads nowhere or to null. -/
def shown (value : Json) (path : List Segment) : List Char :=
  match lookup? value path with
  | none => []
  | some .null => []
  | some found => inserted found

namespace Span

/-- The text of a span and behind it. -/
def text (s : Span) : List Char :=
  ['\x7b', '\x7b', '='] ++ s.expression ++ ['\x7d', '\x7d'] ++ s.after

/-- The tokens of a span and the text behind it. -/
def tokens (s : Span) : List Token := .interpolate s.path :: literalToken s.after

/-- What is shown of a value in place of a span, and the text behind it. -/
def filled (value : Json) (s : Span) : List Char := shown value s.path ++ s.after

end Span

namespace Layout

/-- The text that is laid out. -/
def text (l : Layout) : List Char := l.before ++ l.spans.flatMap Span.text

/-- The texts around the spans. -/
def literals (l : Layout) : List (List Char) := l.before :: l.spans.map Span.after

/-- The tokens: the paths of the spans, and the texts around them that are not empty. -/
def tokens (l : Layout) : List Token := literalToken l.before ++ l.spans.flatMap Span.tokens

/-- The text with what is shown of a value in place of the spans. -/
def filled (l : Layout) (value : Json) : List Char :=
  l.before ++ l.spans.flatMap (Span.filled value)

/-- Whether the cuts cannot be made elsewhere. -/
structure IsSound (l : Layout) : Prop where
  /-- No text around the spans holds `{{`. -/
  noMark : ∀ t ∈ l.literals, ¬ ['\x7b', '\x7b'] <:+: t
  /-- No text before a span ends in `{`. -/
  noBrace : ∀ t ∈ l.literals.dropLast, t.getLast? ≠ some '\x7b'
  /-- Each span holds an expression for its path. -/
  expression : ∀ s ∈ l.spans, Expression s.expression s.path

/-! ### Layouts span by span -/

@[simp] theorem text_nil (before : List Char) : text ⟨before, []⟩ = before :=
  List.append_nil before

@[simp] theorem text_cons (before : List Char) (s : Span) (rest : List Span) :
    text ⟨before, s :: rest⟩ =
      before ++ '\x7b' :: '\x7b' :: '=' ::
        (s.expression ++ '\x7d' :: '\x7d' :: text ⟨s.after, rest⟩) := by
  simp [text, Span.text]

theorem tokens_cons (before : List Char) (s : Span) (rest : List Span) :
    tokens ⟨before, s :: rest⟩ =
      literalToken before ++ .interpolate s.path :: tokens ⟨s.after, rest⟩ := by
  simp [tokens, Span.tokens]

theorem isSound_nil_iff {before : List Char} :
    IsSound ⟨before, []⟩ ↔ ¬ ['\x7b', '\x7b'] <:+: before := by
  constructor
  · intro h
    exact h.noMark before List.mem_cons_self
  · intro h
    refine ⟨fun t ht => ?_, fun t ht => ?_, fun s hs => ?_⟩
    · rw [List.mem_singleton.1 ht]
      exact h
    · cases ht
    · cases hs

theorem isSound_cons_iff {before : List Char} {s : Span} {rest : List Span} :
    IsSound ⟨before, s :: rest⟩ ↔
      ¬ ['\x7b', '\x7b'] <:+: before ∧ before.getLast? ≠ some '\x7b' ∧
        Expression s.expression s.path ∧ IsSound ⟨s.after, rest⟩ := by
  constructor
  · intro h
    refine ⟨h.noMark before List.mem_cons_self, h.noBrace before List.mem_cons_self,
      h.expression s List.mem_cons_self, fun t ht => ?_, fun t ht => ?_, fun u hu => ?_⟩
    · exact h.noMark t (List.mem_cons_of_mem before ht)
    · exact h.noBrace t (List.mem_cons_of_mem before ht)
    · exact h.expression u (List.mem_cons_of_mem s hu)
  · rintro ⟨hmark, hbrace, hexpr, h⟩
    refine ⟨fun t ht => ?_, fun t ht => ?_, fun u hu => ?_⟩
    · rcases List.mem_cons.1 ht with rfl | ht
      · exact hmark
      · exact h.noMark t ht
    · rcases List.mem_cons.1 ht with rfl | ht
      · exact hbrace
      · exact h.noBrace t ht
    · rcases List.mem_cons.1 hu with rfl | hu
      · exact hexpr
      · exact h.expression u hu

/-! ### Where a layout is cut -/

/-- A sound layout without spans is not cut. -/
theorem splitOpen?_text_nil {before : List Char} (h : IsSound ⟨before, []⟩) :
    splitOpen? (text ⟨before, []⟩) = none := by
  rw [text_nil]
  exact splitDouble?_eq_none_iff.2 (isSound_nil_iff.1 h)

/-- A sound layout is cut where its first span starts. -/
theorem splitOpen?_text_cons {before : List Char} {s : Span} {rest : List Span}
    (h : IsSound ⟨before, s :: rest⟩) :
    splitOpen? (text ⟨before, s :: rest⟩) =
      some (before, '=' :: (s.expression ++ '\x7d' :: '\x7d' :: text ⟨s.after, rest⟩)) := by
  obtain ⟨hmark, hbrace, -, -⟩ := isSound_cons_iff.1 h
  rw [text_cons]
  exact splitDouble?_append hmark hbrace _

end Layout

/-- An expression ends where its span is closed. -/
theorem Expression.splitClose? {text : List Char} {path : List Segment}
    (h : Expression text path) (after : List Char) :
    splitClose? (text ++ '\x7d' :: '\x7d' :: after) = some (text, after) := by
  have hbrace := h.notMem_brace
  refine splitDouble?_append (fun hi => hbrace ?_) (fun hl => hbrace ?_) after
  · exact hi.subset List.mem_cons_self
  · exact List.mem_of_getLast? hl

/-- The reader of spans takes an expression with a mark behind it. -/
theorem Expression.span? {text : List Char} {path : List Segment} (h : Expression text path)
    (after : List Char) :
    span? ('=' :: (text ++ '\x7d' :: '\x7d' :: after)) = .ok (path, after) := by
  simp only [Template.span?, h.splitClose? after, path?_eq_ok_iff.2 h]

/-- The reader of spans accepts just the expressions with a mark behind them. -/
theorem span?_eq_ok_iff {inner after : List Char} {path : List Segment} :
    span? inner = .ok (path, after) ↔
      ∃ text, inner = '=' :: (text ++ '\x7d' :: '\x7d' :: after) ∧ Expression text path := by
  constructor
  · intro h
    unfold span? at h
    split at h
    · next expression =>
      split at h
      · cases h
      · next text after' hs =>
        split at h
        · cases h
        · next path' hp =>
          obtain ⟨rfl, rfl⟩ := Prod.mk.inj (Except.ok.inj h)
          refine ⟨text, ?_, path?_eq_ok_iff.1 hp⟩
          rw [← eq_of_splitDouble? hs]
    · cases h
  · rintro ⟨text, rfl, h⟩
    exact h.span? after

/-! ### The compiler -/

/-- A text without a mark is one literal. -/
theorem compileAt_of_splitOpen?_eq_none {s : List Char} (h : splitOpen? s = none)
    (offset : Nat) : compileAt offset s = .ok (literalToken s) := by
  rw [compileAt]
  split
  · rfl
  · next hs => rw [h] at hs; cases hs

/-- Behind a span the compiler goes on with the rest of the text. -/
theorem compileAt_of_span {s before inner after : List Char} {path : List Segment}
    (hopen : splitOpen? s = some (before, inner)) (hspan : span? inner = .ok (path, after))
    (offset : Nat) :
    compileAt offset s =
      (compileAt (offset + size before + spanSize inner after) after).map
        (literalToken before ++ .interpolate path :: ·) := by
  rw [compileAt]
  split
  · next hs => rw [hopen] at hs; cases hs
  · next b i hs =>
    obtain ⟨rfl, rfl⟩ := Prod.mk.inj (Option.some.inj (hs.symm.trans hopen))
    split
    · next hp => rw [hspan] at hp; cases hp
    · next p a hp =>
      obtain ⟨rfl, rfl⟩ := Prod.mk.inj (Except.ok.inj (hp.symm.trans hspan))
      cases compileAt (offset + size b + spanSize i a) a <;> rfl

/-- Where a text breaks off, the compiler says at which octet the span starts. -/
theorem compileAt_of_span_error {s before inner : List Char} {reason : Reason}
    (hopen : splitOpen? s = some (before, inner)) (hspan : span? inner = .error reason)
    (offset : Nat) : compileAt offset s = .error ⟨offset + size before, reason⟩ := by
  rw [compileAt]
  split
  · next hs => rw [hopen] at hs; cases hs
  · next b i hs =>
    obtain ⟨rfl, rfl⟩ := Prod.mk.inj (Option.some.inj (hs.symm.trans hopen))
    split
    · next hp => rw [Except.error.inj (hp.symm.trans hspan)]
    · next hp => rw [hspan] at hp; cases hp

/-- A text with a sound layout compiles to the tokens of the layout. -/
theorem compileAt_text {before : List Char} {spans : List Span}
    (h : Layout.IsSound ⟨before, spans⟩) (offset : Nat) :
    compileAt offset (Layout.text ⟨before, spans⟩) = .ok (Layout.tokens ⟨before, spans⟩) := by
  induction spans generalizing before offset with
  | nil =>
    rw [compileAt_of_splitOpen?_eq_none (Layout.splitOpen?_text_nil h), Layout.text_nil]
    simp [Layout.tokens]
  | cons s rest ih =>
    -- the first span is read as it stands, and the induction goes on behind it
    obtain ⟨-, -, hexpr, hrest⟩ := Layout.isSound_cons_iff.1 h
    rw [compileAt_of_span (Layout.splitOpen?_text_cons h) (hexpr.span? _), ih hrest,
      Layout.tokens_cons]
    rfl

/-- A text that compiles has a sound layout with the same tokens. -/
theorem exists_layout_of_compileAt {offset : Nat} {s : List Char} {tokens : List Token}
    (h : compileAt offset s = .ok tokens) :
    ∃ l : Layout, l.IsSound ∧ l.text = s ∧ l.tokens = tokens := by
  induction hn : s.length using Nat.strong_induction_on generalizing offset s tokens with
  | _ n ih =>
    cases hopen : splitOpen? s with
    | none =>
      rw [compileAt_of_splitOpen?_eq_none hopen] at h
      refine ⟨⟨s, []⟩, Layout.isSound_nil_iff.2 (splitDouble?_eq_none_iff.1 hopen),
        Layout.text_nil s, ?_⟩
      simpa [Layout.tokens] using Except.ok.inj h
    | some cut =>
      obtain ⟨before, inner⟩ := cut
      obtain ⟨hs, hmark, hbrace⟩ := splitDouble?_eq_some_iff.1 hopen
      cases hspan : span? inner with
      | error reason =>
        rw [compileAt_of_span_error hopen hspan] at h
        cases h
      | ok found =>
        obtain ⟨path, after⟩ := found
        rw [compileAt_of_span hopen hspan] at h
        obtain ⟨rest, hrest, rfl⟩ := exists_of_map_eq_ok h
        -- the text behind the span is shorter, so it has a layout of its own
        have hlt : after.length < n := by
          have hinner := length_after_span hspan
          rw [← hn, hs, List.length_append, List.length_cons, List.length_cons]
          omega
        obtain ⟨⟨b, spans⟩, hsound, htext, rfl⟩ := ih _ hlt hrest rfl
        obtain ⟨e, rfl, hexpr⟩ := span?_eq_ok_iff.1 hspan
        refine ⟨⟨before, ⟨e, path, b⟩ :: spans⟩, ?_, ?_, ?_⟩
        · exact Layout.isSound_cons_iff.2 ⟨hmark, hbrace, hexpr, hsound⟩
        · rw [Layout.text_cons, htext, hs]
        · exact Layout.tokens_cons before ⟨e, path, b⟩ spans

/-- The compiler accepts just the texts with a sound layout. -/
theorem compileAt_eq_ok_iff {offset : Nat} {s : List Char} {tokens : List Token} :
    compileAt offset s = .ok tokens ↔
      ∃ l : Layout, l.IsSound ∧ l.text = s ∧ l.tokens = tokens := by
  refine ⟨exists_layout_of_compileAt, ?_⟩
  rintro ⟨⟨before, spans⟩, hsound, rfl, rfl⟩
  exact compileAt_text hsound offset

/-! ### One layout for each text -/

/-- A text has one sound layout at most: the scan finds its cuts. -/
theorem Layout.eq_of_text_eq {l l' : Layout} (h : l.IsSound) (h' : l'.IsSound)
    (heq : l.text = l'.text) : l = l' := by
  obtain ⟨before, spans⟩ := l
  obtain ⟨before', spans'⟩ := l'
  induction spans generalizing before before' spans' with
  | nil =>
    cases spans' with
    | nil => rw [← text_nil before, heq, text_nil]
    | cons s' rest' =>
      have hopen := splitOpen?_text_cons h'
      rw [← heq, splitOpen?_text_nil h] at hopen
      cases hopen
  | cons s rest ih =>
    cases spans' with
    | nil =>
      have hopen := splitOpen?_text_nil h'
      rw [← heq, splitOpen?_text_cons h] at hopen
      cases hopen
    | cons s' rest' =>
      obtain ⟨e, p, a⟩ := s
      obtain ⟨e', p', a'⟩ := s'
      obtain ⟨-, -, hexpr, hrest⟩ := isSound_cons_iff.1 h
      obtain ⟨-, -, hexpr', hrest'⟩ := isSound_cons_iff.1 h'
      have hopen := splitOpen?_text_cons h'
      rw [← heq, splitOpen?_text_cons h] at hopen
      -- both layouts are cut at the first mark, and closed at the first one behind it
      obtain ⟨rfl, hinner⟩ := Prod.mk.inj (Option.some.inj hopen)
      have hclose := hexpr'.splitClose? (text ⟨a', rest'⟩)
      rw [← (List.cons.inj hinner).2, hexpr.splitClose?] at hclose
      obtain ⟨rfl, htext⟩ := Prod.mk.inj (Option.some.inj hclose)
      obtain rfl := hexpr.path_unique hexpr'
      obtain ⟨rfl, rfl⟩ := Layout.mk.inj (ih a hrest a' rest' hrest' htext)
      rfl

/-! ### Rendering -/

theorem insertedAt_eq_shown (value : Json) (path : List Segment) :
    insertedAt value path = shown value path := by
  rw [insertedAt, shown]
  cases lookup? value path with
  | none => rfl
  | some found => cases found <;> rfl

@[simp] theorem render_literalToken (text : List Char) (value : Json) :
    render (literalToken text) value = text := by
  cases text <;> simp [literalToken, Token.render]

theorem render_spanTokens (s : Span) (value : Json) : render s.tokens value = s.filled value := by
  rw [Span.tokens, render_cons, render_literalToken, Token.render, insertedAt_eq_shown, Span.filled]

/-- The tokens of a layout render to its text with the spans filled. -/
theorem Layout.render_tokens (l : Layout) (value : Json) :
    render l.tokens value = l.filled value := by
  rw [tokens, filled, render_append, render_literalToken, render, List.flatMap_assoc]
  congr 2
  funext s
  exact render_spanTokens s value

/-- **A text compiles iff it has a sound layout.**  The layout is then the only one; the
tokens are those of the layout, and whatever the value, the text around the spans is
reproduced as it stands, with what is shown of the value in place of the spans. -/
theorem compile_iff_layout (text : String) :
    ((∃ tokens, compile text = .ok tokens) ↔
      ∃ l : Layout, l.IsSound ∧ l.text = text.toList) ∧
    ∀ tokens, compile text = .ok tokens →
      (∃! l : Layout, l.IsSound ∧ l.text = text.toList) ∧
      ∀ l : Layout, l.IsSound → l.text = text.toList →
        tokens = l.tokens ∧ ∀ value, render tokens value = l.filled value := by
  constructor
  · constructor
    · rintro ⟨tokens, h⟩
      obtain ⟨l, hsound, htext, -⟩ := compileAt_eq_ok_iff.1 h
      exact ⟨l, hsound, htext⟩
    · rintro ⟨l, hsound, htext⟩
      exact ⟨l.tokens, compileAt_eq_ok_iff.2 ⟨l, hsound, htext, rfl⟩⟩
  · intro tokens h
    obtain ⟨l, hsound, htext, rfl⟩ := compileAt_eq_ok_iff.1 h
    -- what compiles has a layout, and no text has two
    have hunique : ∀ l' : Layout, l'.IsSound → l'.text = text.toList → l' = l := by
      intro l' hsound' htext'
      exact Layout.eq_of_text_eq hsound' hsound (htext'.trans htext.symm)
    refine ⟨⟨l, ⟨hsound, htext⟩, fun l' hl' => hunique l' hl'.1 hl'.2⟩, ?_⟩
    intro l' hsound' htext'
    rw [hunique l' hsound' htext']
    exact ⟨rfl, l.render_tokens⟩

/-- Stray marks and blanks in a span: the text `a}}{{= b.10 }}}`. -/
theorem compile_iff_layout_stray_marks :
    compile "a\x7d\x7d\x7b\x7b= b.10 \x7d\x7d\x7d" =
      .ok [.literal ['a', '\x7d', '\x7d'], .interpolate [.key ['b'], .index 10],
        .literal ['\x7d']] ∧
    ∃! l : Layout, l.IsSound ∧ l.text = "a\x7d\x7d\x7b\x7b= b.10 \x7d\x7d\x7d".toList := by
  have h : compile "a\x7d\x7d\x7b\x7b= b.10 \x7d\x7d\x7d" =
      .ok [.literal ['a', '\x7d', '\x7d'], .interpolate [.key ['b'], .index 10],
        .literal ['\x7d']] := by cbv
  exact ⟨h, ((compile_iff_layout _).2 _ h).1⟩

end VideoPosters.Template
