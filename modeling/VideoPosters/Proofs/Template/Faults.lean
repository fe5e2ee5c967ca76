import VideoPosters.Proofs.Template.Joining

/-!
# Where a template breaks off

A text that does not compile has a first span that is wrong.  What stands before that span
compiles on its own; what is wrong with the span is seen from the text behind its `{{`, and
within an expression from the leftmost piece that stands for no segment.  All of it can be
said without the scan, and said so it also tells when the scan breaks off: just where a
fault stands behind a text that compiles.

## Main definitions

* `UpToFirst` — a text goes on with a mark, and with none before.
* `PieceFault`, `ExpressionFault`, `SpanFault` — what can be wrong with a piece of an
  expression, with an expression, and with the span that a text starts with.

## Main results

* `segment?_eq_error_iff`, `path?_eq_error_iff`, `span?_eq_error_iff` — the readers refuse
  just what is wrong, for that reason.
* `compileAt_eq_error_iff` — the scan breaks off just behind a sound layout.
* `compile_eq_error_iff` — **where a text breaks off, and why.**
-/

namespace VideoPosters.Template

open Text (trim splitAt joinWith)
open Text.Utf8 (size charSize size_toList)

/-! ### The first mark -/

/-- The mark behind `before` is the first one of the text. -/
def UpToFirst (mark : Char) (before after : List Char) : Prop :=
  ∀ b a, before ++ mark :: mark :: after = b ++ mark :: mark :: a → before.length ≤ b.length

/-- A text is cut at its first mark. -/
theorem upToFirst_of_splitDouble? {mark : Char} {s before after : List Char}
    (h : splitDouble? mark s = some (before, after)) : UpToFirst mark before after := by
  fun_induction splitDouble? mark s generalizing before after with
  | case1 c d rest hm =>
    obtain ⟨rfl, -⟩ := Prod.mk.inj (Option.some.inj h)
    intro b a _
    exact Nat.zero_le _
  | case2 c d rest hm ih =>
    obtain ⟨⟨b, a⟩, hcut, he⟩ := Option.map_eq_some_iff.1 h
    obtain ⟨rfl, rfl⟩ := Prod.mk.inj he
    have hrest := eq_of_splitDouble? hcut
    intro b' a' heq
    rw [List.cons_append, ← hrest] at heq
    cases b' with
    | nil =>
      -- a mark right at the start would have been the cut
      obtain ⟨rfl, heq⟩ := List.cons.inj heq
      exact absurd ⟨rfl, (List.cons.inj heq).1⟩ hm
    | cons e b' =>
      obtain ⟨-, heq⟩ := List.cons.inj heq
      exact Nat.succ_le_succ (ih hcut b' a' (hrest ▸ heq))
  | case3 => cases h

/-- **A text is cut just where its first mark stands.** -/
theorem splitDouble?_append_iff {mark : Char} {before after : List Char} :
    splitDouble? mark (before ++ mark :: mark :: after) = some (before, after) ↔
      UpToFirst mark before after := by
  refine ⟨upToFirst_of_splitDouble?, fun hfirst => ?_⟩
  cases hcut : splitDouble? mark (before ++ mark :: mark :: after) with
  | none =>
    refine absurd ?_ (splitDouble?_eq_none_iff.1 hcut)
    exact ⟨before, after, by simp⟩
  | some cut =>
    obtain ⟨b, a⟩ := cut
    have heq := eq_of_splitDouble? hcut
    -- both marks are the first one, so neither text around them can be the shorter one
    have hle := hfirst b a heq
    have hge := upToFirst_of_splitDouble? hcut before after heq.symm
    obtain ⟨rfl, hrest⟩ := List.append_inj heq (Nat.le_antisymm hle hge)
    obtain rfl : after = a := by simpa using hrest
    rfl

/-! ### Expressions -/

/-- What is wrong with a piece of an expression that stands for no segment. -/
inductive PieceFault (expression : List Char) : List Char → Reason → Prop where
  | tooLarge {digits : List Char} (hne : digits ≠ []) (hdigits : ∀ c ∈ digits, c.isDigit = true)
      (hge : 2 ^ 64 ≤ numberOf digits) : PieceFault expression digits .indexOutOfRange
  | invalid {s : List Char} (hdigits : s = [] ∨ ∃ c ∈ s, c.isDigit = false)
      (hkey : ∀ segment, ¬ Segment.Writes s segment) :
      PieceFault expression s (.invalidSegment s expression)

/-- What is wrong with the text between `{{=` and `}}`: nothing stands there, or of the pieces
between the dots the leftmost one that stands for no segment. -/
inductive ExpressionFault (text : List Char) : Reason → Prop where
  | empty (h : trim text = []) : ExpressionFault text .emptyExpression
  | piece {good rest : List (List Char)} {bad : List Char} {reason : Reason}
      (hne : trim text ≠ []) (htext : trim text = joinWith ['.'] (good ++ bad :: rest))
      (hdots : ∀ s ∈ good ++ bad :: rest, '.' ∉ s)
      (hgood : ∀ s ∈ good, ∃ segment, Segment.Writes s segment)
      (hbad : PieceFault (trim text) bad reason) : ExpressionFault text reason

/-- The reader of segments refuses just the pieces that are wrong. -/
theorem segment?_eq_error_iff {expression s : List Char} {reason : Reason} :
    segment? expression s = .error reason ↔ PieceFault expression s reason := by
  have hdigits_iff : (!s.isEmpty && s.all Char.isDigit) = true ↔
      s ≠ [] ∧ ∀ c ∈ s, c.isDigit = true := by
    rw [Bool.and_eq_true, Bool.not_eq_true', List.isEmpty_eq_false_iff, List.all_eq_true]
  constructor
  · intro h
    -- what is refused writes no segment
    have hwrites : ∀ segment, ¬ Segment.Writes s segment := by
      intro segment hw
      rw [segment?_eq_ok_iff.2 hw] at h
      cases h
    rw [segment?] at h
    split at h
    · next hdigits =>
      -- digits are refused only for the size of the number
      obtain ⟨hne, hdigits⟩ := hdigits_iff.1 hdigits
      split at h
      · cases h
      · next hlt =>
        rw [indexValue_eq_numberOf] at hlt
        obtain rfl := Except.error.inj h
        exact .tooLarge hne hdigits (Nat.le_of_not_lt hlt)
    · next hdigits =>
      -- and anything else only as no key
      rw [hdigits_iff, not_and_or, not_not] at hdigits
      split at h
      · cases h
      · obtain rfl := Except.error.inj h
        refine .invalid (hdigits.imp_right fun hall => ?_) hwrites
        simpa using hall
  · intro h
    cases h with
    | tooLarge hne hdigits hge =>
      have hlt : ¬ indexValue s < Nat.pow 2 64 := by
        rw [indexValue_eq_numberOf]
        exact Nat.not_lt.2 hge
      rw [segment?, if_pos (hdigits_iff.2 ⟨hne, hdigits⟩), if_neg hlt]
    | invalid hdigits hkey =>
      have hnot : ¬ (!s.isEmpty && s.all Char.isDigit) = true := by
        rw [hdigits_iff]
        rintro ⟨hne, hall⟩
        rcases hdigits with hnil | ⟨c, hc, hdigit⟩
        · exact hne hnil
        · rw [hall c hc] at hdigit
          cases hdigit
      -- the reader has to refuse it, and not for the size of a number
      cases hread : segment? expression s with
      | ok segment => exact absurd (segment?_eq_ok_iff.1 hread) (hkey segment)
      | error reason =>
        rw [segment?, if_neg hnot] at hread
        split at hread
        · cases hread
        · exact hread.symm

/-- Pieces are refused for the first one if it is wrong. -/
theorem segments?_cons_of_error {expression s : List Char} {reason : Reason}
    (h : segment? expression s = .error reason) (pieces : List (List Char)) :
    segments? expression (s :: pieces) = .error reason := by
  simp only [segments?, h]

/-- Pieces behind one that is a segment decide. -/
theorem segments?_cons_of_ok {expression s : List Char} {segment : Segment} {reason : Reason}
    (h : segment? expression s = .ok segment) (pieces : List (List Char)) :
    segments? expression (s :: pieces) = .error reason ↔
      segments? expression pieces = .error reason := by
  simp only [segments?, h]
  cases segments? expression pieces <;> simp

/-- The reader of pieces refuses the first one that is wrong. -/
theorem segments?_eq_error_iff {expression : List Char} {pieces : List (List Char)}
    {reason : Reason} :
    segments? expression pieces = .error reason ↔
      ∃ good bad rest, pieces = good ++ bad :: rest ∧
        (∀ s ∈ good, ∃ segment, Segment.Writes s segment) ∧ PieceFault expression bad reason := by
  constructor
  · intro h
    induction pieces with
    | nil => cases h
    | cons s pieces ih =>
      cases hs : segment? expression s with
      | error reason' =>
        rw [segments?_cons_of_error hs] at h
        obtain rfl := Except.error.inj h
        exact ⟨[], s, pieces, rfl, fun t ht => (by cases ht), segment?_eq_error_iff.1 hs⟩
      | ok segment =>
        -- the first wrong piece of the rest is the first one of all
        obtain ⟨good, bad, rest, rfl, hgood, hbad⟩ := ih ((segments?_cons_of_ok hs pieces).1 h)
        refine ⟨s :: good, bad, rest, rfl, ?_, hbad⟩
        rw [List.forall_mem_cons]
        exact ⟨⟨segment, segment?_eq_ok_iff.1 hs⟩, hgood⟩
  · rintro ⟨good, bad, rest, rfl, hgood, hbad⟩
    induction good with
    | nil => exact segments?_cons_of_error (segment?_eq_error_iff.2 hbad) rest
    | cons s good ih =>
      rw [List.forall_mem_cons] at hgood
      obtain ⟨⟨segment, hwrites⟩, hgood⟩ := hgood
      exact (segments?_cons_of_ok (segment?_eq_ok_iff.2 hwrites) _).2 (ih hgood)

/-- **The reader refuses just the expressions that are wrong.** -/
theorem path?_eq_error_iff {text : List Char} {reason : Reason} :
    path? text = .error reason ↔ ExpressionFault text reason := by
  rw [path?]
  by_cases hnil : trim text = []
  · simp only [hnil, List.isEmpty_nil, if_true]
    constructor
    · intro h
      obtain rfl := Except.error.inj h
      exact .empty hnil
    · intro h
      cases h with
      | empty _ => rfl
      | piece hne _ _ _ _ => exact absurd hnil hne
  · have hempty : (trim text).isEmpty = false := List.isEmpty_eq_false_iff.2 hnil
    simp only [hempty, Bool.false_eq_true, if_false]
    rw [segments?_eq_error_iff]
    constructor
    · rintro ⟨good, bad, rest, hpieces, hgood, hbad⟩
      -- pieces without dots and the text that they join to determine each other
      have htext : trim text = joinWith ['.'] (good ++ bad :: rest) := by
        rw [← hpieces, Text.joinWith_splitAt]
      have hdots : ∀ s ∈ good ++ bad :: rest, '.' ∉ s := by
        intro s hs
        rw [← hpieces] at hs
        exact Text.notMem_of_mem_splitAt hs
      exact .piece hnil htext hdots hgood hbad
    · intro h
      cases h with
      | empty h => exact absurd h hnil
      | @piece good rest bad _ _ htext hdots hgood hbad =>
        refine ⟨good, bad, rest, ?_, hgood, hbad⟩
        rw [htext, Text.splitAt_joinWith (by simp) hdots]

/-! ### Spans -/

/-- What is wrong with the span that a text starts with. -/
inductive SpanFault : List Char → Reason → Prop where
  | unsupported {inner : List Char} (h : inner.head? ≠ some '=') :
      SpanFault ('\x7b' :: '\x7b' :: inner) .unsupported
  | unclosed {inner : List Char} (h : ¬ ['\x7d', '\x7d'] <:+: inner) :
      SpanFault ('\x7b' :: '\x7b' :: '=' :: inner) .unclosed
  | expression {text after : List Char} {reason : Reason} (hfirst : UpToFirst '\x7d' text after)
      (h : ExpressionFault text reason) :
      SpanFault ('\x7b' :: '\x7b' :: '=' :: (text ++ '\x7d' :: '\x7d' :: after)) reason

/-- What is wrong with a span is wrong behind its mark. -/
theorem SpanFault.exists_inner {s : List Char} {reason : Reason} (h : SpanFault s reason) :
    ∃ inner, s = '\x7b' :: '\x7b' :: inner := by
  cases h with
  | _ => exact ⟨_, rfl⟩

/-- The reader of spans refuses just those that are wrong. -/
theorem span?_eq_error_iff {inner : List Char} {reason : Reason} :
    span? inner = .error reason ↔ SpanFault ('\x7b' :: '\x7b' :: inner) reason := by
  constructor
  · intro h
    unfold span? at h
    split at h
    · next expression =>
      split at h
      · next hclose =>
        obtain rfl := Except.error.inj h
        exact .unclosed (splitDouble?_eq_none_iff.1 hclose)
      · next text after hclose =>
        have htext := eq_of_splitDouble? hclose
        split at h
        · next reason' hpath =>
          obtain rfl := Except.error.inj h
          rw [htext]
          exact .expression (upToFirst_of_splitDouble? hclose) (path?_eq_error_iff.1 hpath)
        · cases h
    · next hother =>
      obtain rfl := Except.error.inj h
      -- without an equals sign it is another kind of span
      refine .unsupported fun hhead => ?_
      cases inner with
      | nil => cases hhead
      | cons c expression =>
        obtain rfl : c = '=' := Option.some.inj hhead
        exact hother expression rfl
  · intro h
    cases h with
    | unsupported h =>
      unfold span?
      split
      · exact absurd rfl h
      · rfl
    | unclosed h =>
      have hclose : splitClose? _ = none := splitDouble?_eq_none_iff.2 h
      simp only [span?, hclose]
    | expression hfirst h =>
      have hclose : splitClose? _ = some _ := splitDouble?_append_iff.2 hfirst
      simp only [span?, hclose, path?_eq_error_iff.2 h]

/-! ### Texts -/

/-- A text ends in `{` only if what stands behind its first span does. -/
theorem Layout.getLast?_text_cons_ne {before expression b : List Char} {path : List Segment}
    {spans : List Span} (h : (Layout.text ⟨b, spans⟩).getLast? ≠ some '\x7b') :
    (Layout.text ⟨before, ⟨expression, path, b⟩ :: spans⟩).getLast? ≠ some '\x7b' := by
  have htext := Layout.text_cons before ⟨expression, path, b⟩ spans
  rw [htext]
  cases hend : (Layout.text ⟨b, spans⟩).getLast? with
  | none => simp [List.getLast?_append, List.getLast?_cons, hend]
  | some c =>
    rw [hend] at h
    simpa [List.getLast?_append, List.getLast?_cons, hend] using h

/-- The scan breaks off behind a sound layout. -/
theorem exists_layout_of_error {offset : Nat} {s : List Char} {e : CompileError}
    (h : compileAt offset s = .error e) :
    ∃ l : Layout, l.IsSound ∧ l.text.getLast? ≠ some '\x7b' ∧
      ∃ rest, s = l.text ++ rest ∧ SpanFault rest e.reason ∧ e.offset = offset + size l.text := by
  -- as in `exists_layout_of_compileAt`, the text behind a span is no tail of the list
  induction hn : s.length using Nat.strong_induction_on generalizing offset s with
  | _ n ih =>
    cases hopen : splitOpen? s with
    | none =>
      rw [compileAt_of_splitOpen?_eq_none hopen] at h
      cases h
    | some cut =>
      obtain ⟨before, inner⟩ := cut
      obtain ⟨hs, hmark, hbrace⟩ := splitDouble?_eq_some_iff.1 hopen
      cases hspan : span? inner with
      | error reason =>
        rw [compileAt_of_span_error hopen hspan] at h
        obtain rfl := Except.error.inj h
        refine ⟨⟨before, []⟩, Layout.isSound_nil_iff.2 hmark, ?_, '\x7b' :: '\x7b' :: inner, ?_,
          span?_eq_error_iff.1 hspan, ?_⟩
        · rwa [Layout.text_nil]
        · rw [Layout.text_nil, hs]
        · rw [Layout.text_nil]
      | ok found =>
        obtain ⟨path, after⟩ := found
        obtain ⟨expression, rfl, hexpr⟩ := span?_eq_ok_iff.1 hspan
        have hlt : after.length < n := by
          have hinner := length_after_span hspan
          rw [← hn, hs, List.length_append, List.length_cons, List.length_cons]
          omega
        have hrest : compileAt (offset + size before +
            spanSize ('=' :: (expression ++ '\x7d' :: '\x7d' :: after)) after) after =
              .error e := by
          rw [compileAt_of_span hopen hspan] at h
          exact eq_error_of_map_eq_error h
        obtain ⟨⟨b, spans⟩, hsound, hlast, rest, hafter, hfault, hoffset⟩ := ih _ hlt hrest rfl
        have htext : Layout.text ⟨before, ⟨expression, path, b⟩ :: spans⟩ =
            before ++ '\x7b' :: '\x7b' :: '=' :: (expression ++ '\x7d' :: '\x7d' ::
              Layout.text ⟨b, spans⟩) :=
          Layout.text_cons before ⟨expression, path, b⟩ spans
        refine ⟨⟨before, ⟨expression, path, b⟩ :: spans⟩,
          Layout.isSound_cons_iff.2 ⟨hmark, hbrace, hexpr, hsound⟩,
          Layout.getLast?_text_cons_ne hlast, rest, ?_, hfault, ?_⟩
        · rw [hs, htext, hafter]
          simp
        · have hspanSize := add_spanSize expression after
          have hafterSize : size after = size (Layout.text ⟨b, spans⟩) + size rest := by
            rw [hafter, Text.Utf8.size_append]
          have hbraceSize : charSize '\x7b' = 1 := rfl
          rw [hoffset, htext]
          simp only [Text.Utf8.size_cons, Text.Utf8.size_append] at hspanSize ⊢
          omega

/-- The scan breaks off just where a span that is wrong stands behind a sound layout. -/
theorem compileAt_eq_error_iff {offset : Nat} {s : List Char} {e : CompileError} :
    compileAt offset s = .error e ↔
      ∃ l : Layout, l.IsSound ∧ l.text.getLast? ≠ some '\x7b' ∧
        ∃ rest, s = l.text ++ rest ∧ SpanFault rest e.reason ∧
          e.offset = offset + size l.text := by
  refine ⟨exists_layout_of_error, ?_⟩
  obtain ⟨_, reason⟩ := e
  rintro ⟨⟨before, spans⟩, hsound, hlast, rest, rfl, hfault, rfl⟩
  obtain ⟨inner, rfl⟩ := hfault.exists_inner
  have hopen : splitOpen? ('\x7b' :: '\x7b' :: inner) = some ([], inner) := by
    have hfirst : UpToFirst '\x7b' [] inner := fun _ _ _ => Nat.zero_le _
    exact splitDouble?_append_iff.2 hfirst
  rw [compileAt_append hsound (fun h => absurd h hlast),
    compileAt_of_span_error hopen (span?_eq_error_iff.2 hfault)]
  rfl

/-- **Where a text breaks off, and why.**  A text does not compile just if a span that is
wrong stands in it behind a text that compiles and does not end in `{`.  The error then names
the octet at which that span starts, and what is wrong with it. -/
theorem compile_eq_error_iff {text : String} {e : CompileError} :
    compile text = .error e ↔
      ∃ before rest : String, text = before ++ rest ∧ (∃ tokens, compile before = .ok tokens) ∧
        before.toList.getLast? ≠ some '\x7b' ∧ SpanFault rest.toList e.reason ∧
        e.offset = before.utf8ByteSize := by
  rw [compile, compileAt_eq_error_iff]
  constructor
  · rintro ⟨l, hsound, hlast, rest, htext, hfault, hoffset⟩
    -- the text in front of the fault is that of the layout
    refine ⟨String.ofList l.text, String.ofList rest, ?_, ⟨l.tokens, ?_⟩, ?_, ?_, ?_⟩
    · rw [← String.ofList_append, ← htext, String.ofList_toList]
    · rw [compile, compileAt_eq_ok_iff]
      exact ⟨l, hsound, String.toList_ofList.symm, rfl⟩
    · rwa [String.toList_ofList]
    · rwa [String.toList_ofList]
    · rw [hoffset, ← size_toList, String.toList_ofList, Nat.zero_add]
  · rintro ⟨before, rest, rfl, ⟨tokens, htokens⟩, hlast, hfault, hoffset⟩
    obtain ⟨l, hsound, htext, -⟩ := compileAt_eq_ok_iff.1 htokens
    refine ⟨l, hsound, htext ▸ hlast, rest.toList, ?_, hfault, ?_⟩
    · rw [htext, String.toList_append]
    · rw [hoffset, htext, size_toList, Nat.zero_add]

/-- The second span is wrong, and stands behind eight octets. -/
example : compile "é\x7b\x7b=a\x7d\x7d\x7b\x7b=b..c\x7d\x7d" =
    .error ⟨8, .invalidSegment [] "b..c".toList⟩ := by
  cbv

end VideoPosters.Template
