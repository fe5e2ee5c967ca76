import VideoPosters.Proofs.Template.Layout
import VideoPosters.Proofs.Text.Places

/-!
# Templates one after the other

A text that compiles may be followed by any other text, provided no `{{` comes to stand
across the seam.  The scan reaches the seam with a literal that holds no mark, so the first
mark behind it is the first mark of the second text, and from there on the second text is
scanned as it would be on its own: the same spans are found, or the same span is wrong, at
an offset that is larger by the octets of the first text.  Only the literals on both sides
of the seam grow together.

## Main definitions

* `joined` — templates one after the other, with the literals at the seam made one.
* `CompileError.shift` — an error behind some more octets.

## Main results

* `compileAt_add` — a text further on in another compiles alike, and errs further on.
* `compileAt_append` — the scan of a sound layout goes on with the text behind it.
* `compile_append` — **compiling a concatenation.**
-/

namespace VideoPosters.Template

open Text.Utf8 (size charSize size_toList)

/-! ### Tokens one after the other -/

/-- Templates one after the other: a literal at the end of the first and one at the start
of the second are made one. -/
def joined : List Token → List Token → List Token
  | [], us => us
  | [.literal s], .literal t :: us => .literal (s ++ t) :: us
  | t :: ts, us => t :: joined ts us

@[simp] theorem joined_nil_left (us : List Token) : joined [] us = us := by
  rw [joined]

@[simp] theorem joined_nil_right (ts : List Token) : joined ts [] = ts := by
  induction ts with
  | nil => rw [joined]
  | cons t ts ih => simp [joined, ih]

@[simp] theorem joined_literal_literal (s t : List Char) (us : List Token) :
    joined [.literal s] (.literal t :: us) = .literal (s ++ t) :: us := by
  rw [joined]

@[simp] theorem joined_interpolate_cons (path : List Segment) (ts us : List Token) :
    joined (.interpolate path :: ts) us = .interpolate path :: joined ts us := by
  simp [joined]

@[simp] theorem joined_cons_cons (t t' : Token) (ts us : List Token) :
    joined (t :: t' :: ts) us = t :: joined (t' :: ts) us := by
  simp [joined]

@[simp] theorem joined_literal_interpolate (s : List Char) (path : List Segment)
    (us : List Token) :
    joined [.literal s] (.interpolate path :: us) = .literal s :: .interpolate path :: us := by
  simp [joined]

/-- Two texts around a seam give one literal. -/
theorem joined_literalToken (s t : List Char) :
    joined (literalToken s) (literalToken t) = literalToken (s ++ t) := by
  cases s with
  | nil => simp [literalToken]
  | cons c s => cases t <;> simp [literalToken]

/-- Two texts around a seam give one literal, also with a span behind them. -/
theorem joined_literalToken_interpolate (s t : List Char) (path : List Segment)
    (us : List Token) :
    joined (literalToken s) (literalToken t ++ .interpolate path :: us) =
      literalToken (s ++ t) ++ .interpolate path :: us := by
  cases s with
  | nil => simp [literalToken]
  | cons c s => cases t <;> simp [literalToken]

/-- Behind a span the seam is that of the rest. -/
theorem joined_literalToken_append (s : List Char) (path : List Segment) (ts us : List Token) :
    joined (literalToken s ++ .interpolate path :: ts) us =
      literalToken s ++ .interpolate path :: joined ts us := by
  cases s <;> simp [literalToken]

/-- Joining leaves what is rendered as it is. -/
theorem render_joined (ts us : List Token) (value : Json) :
    render (joined ts us) value = render ts value ++ render us value := by
  fun_induction joined ts us with
  | case1 us => simp
  | case2 s t us => simp [Token.render]
  | case3 t ts us _ ih => simp [ih]

/-! ### Offsets -/

/-- An error behind some more octets. -/
def CompileError.shift (k : Nat) (e : CompileError) : CompileError := ⟨k + e.offset, e.reason⟩

/-- A text further on in another compiles alike, and errs further on. -/
theorem compileAt_add (k offset : Nat) (s : List Char) :
    compileAt (k + offset) s = (compileAt offset s).mapError (CompileError.shift k) := by
  -- the scan goes on with the text behind a span: shorter, but far from the tail of the list
  induction hn : s.length using Nat.strong_induction_on generalizing offset s with
  | _ n ih =>
    cases hopen : splitOpen? s with
    | none =>
      rw [compileAt_of_splitOpen?_eq_none hopen, compileAt_of_splitOpen?_eq_none hopen]
      rfl
    | some cut =>
      obtain ⟨before, inner⟩ := cut
      cases hspan : span? inner with
      | error reason =>
        rw [compileAt_of_span_error hopen hspan, compileAt_of_span_error hopen hspan]
        simp only [Except.mapError, CompileError.shift, Nat.add_assoc]
      | ok found =>
        obtain ⟨path, after⟩ := found
        have hlt : after.length < n := by
          have hinner := length_after_span hspan
          rw [← hn, eq_of_splitDouble? hopen, List.length_append, List.length_cons,
            List.length_cons]
          omega
        rw [compileAt_of_span hopen hspan, compileAt_of_span hopen hspan, except_mapError_map,
          ← ih _ hlt _ _ rfl]
        simp only [Nat.add_assoc]

/-! ### Across the seam -/

section

variable {s t : List Char}

/-- A text without a mark is put in front of the first literal of the text behind it. -/
theorem compileAt_append_of_noMark (hmark : ¬ ['\x7b', '\x7b'] <:+: s)
    (hseam : s.getLast? = some '\x7b' → t.head? ≠ some '\x7b') (offset : Nat) :
    compileAt offset (s ++ t) = (compileAt (offset + size s) t).map (joined (literalToken s)) := by
  -- no mark stands across the seam, so the first one is that of the text behind it
  have hsplit : splitOpen? (s ++ t) = _ := splitDouble?_append_of_seam hmark hseam
  cases hopen : splitOpen? t with
  | none =>
    rw [splitOpen?] at hopen
    rw [hopen] at hsplit
    rw [compileAt_of_splitOpen?_eq_none hsplit, compileAt_of_splitOpen?_eq_none hopen]
    simp only [Except.map, joined_literalToken]
  | some cut =>
    obtain ⟨before, inner⟩ := cut
    rw [splitOpen?] at hopen
    rw [hopen, Option.map_some] at hsplit
    have hsize : offset + size (s ++ before) = offset + size s + size before := by
      rw [Text.Utf8.size_append, Nat.add_assoc]
    cases hspan : span? inner with
    | error reason =>
      rw [compileAt_of_span_error hsplit hspan, compileAt_of_span_error hopen hspan, hsize]
      rfl
    | ok found =>
      obtain ⟨path, after⟩ := found
      rw [compileAt_of_span hsplit hspan, compileAt_of_span hopen hspan, hsize, except_map_map]
      simp only [joined_literalToken_interpolate]

/-- The octets of a span and of the text behind it make up those of the text it starts in. -/
theorem add_spanSize (expression after : List Char) :
    spanSize ('=' :: (expression ++ '\x7d' :: '\x7d' :: after)) after + size after =
      2 + size ('=' :: (expression ++ '\x7d' :: '\x7d' :: after)) := by
  rw [spanSize]
  simp only [Text.Utf8.size_cons, Text.Utf8.size_append]
  omega

/-- The scan of a sound layout goes on with the text behind it. -/
theorem compileAt_append {before : List Char} {spans : List Span}
    (h : Layout.IsSound ⟨before, spans⟩)
    (hseam : (Layout.text ⟨before, spans⟩).getLast? = some '\x7b' → t.head? ≠ some '\x7b')
    (offset : Nat) :
    compileAt offset (Layout.text ⟨before, spans⟩ ++ t) =
      (compileAt (offset + size (Layout.text ⟨before, spans⟩)) t).map
        (joined (Layout.tokens ⟨before, spans⟩)) := by
  induction spans generalizing before offset with
  | nil =>
    have htokens : Layout.tokens ⟨before, []⟩ = literalToken before := by simp [Layout.tokens]
    rw [Layout.text_nil] at hseam ⊢
    rw [htokens]
    exact compileAt_append_of_noMark (Layout.isSound_nil_iff.1 h) hseam offset
  | cons s rest ih =>
    obtain ⟨hmark, hbrace, hexpr, hrest⟩ := Layout.isSound_cons_iff.1 h
    -- the text behind the span, on its own and with `t` behind it
    let tail := Layout.text ⟨s.after, rest⟩
    have htext : Layout.text ⟨before, s :: rest⟩ =
        before ++ '\x7b' :: '\x7b' :: '=' :: (s.expression ++ '\x7d' :: '\x7d' :: tail) :=
      Layout.text_cons before s rest
    have hwhole : Layout.text ⟨before, s :: rest⟩ ++ t =
        before ++ '\x7b' :: '\x7b' :: '=' :: (s.expression ++ '\x7d' :: '\x7d' :: (tail ++ t)) := by
      simp [htext]
    have hopen := splitDouble?_append hmark hbrace
      ('=' :: (s.expression ++ '\x7d' :: '\x7d' :: (tail ++ t)))
    have htail : tail.getLast? = some '\x7b' → t.head? ≠ some '\x7b' := by
      intro hlast
      apply hseam
      rw [htext]
      simp [List.getLast?_append, List.getLast?_cons, hlast]
    have hoffset : offset + size before +
        spanSize ('=' :: (s.expression ++ '\x7d' :: '\x7d' :: (tail ++ t))) (tail ++ t) + size tail =
        offset + size (Layout.text ⟨before, s :: rest⟩) := by
      have hspan := add_spanSize s.expression (tail ++ t)
      rw [htext]
      simp only [Text.Utf8.size_cons, Text.Utf8.size_append] at hspan ⊢
      have hbraceSize : charSize '\x7b' = 1 := rfl
      omega
    rw [hwhole, compileAt_of_span hopen (hexpr.span? (tail ++ t)), ih hrest htail, hoffset,
      except_map_map, Layout.tokens_cons]
    congr 1
    funext us
    exact (joined_literalToken_append before s.path _ us).symm

end

/-- **Compiling a concatenation.**  Behind a text that compiles, and unless a `{{` comes to
stand across the seam, a text compiles just if it does on its own.  The tokens are then
those of both, with the literals at the seam made one, and render to what both render to;
or else the error is that of the second text, further on by the octets of the first. -/
theorem compile_append {a b : String} {ts : List Token} (ha : compile a = .ok ts)
    (hseam : ¬ (a.toList.getLast? = some '\x7b' ∧ b.toList.head? = some '\x7b')) :
    ((∃ vs, compile (a ++ b) = .ok vs) ↔ ∃ us, compile b = .ok us) ∧
    (∀ us, compile b = .ok us → compile (a ++ b) = .ok (joined ts us) ∧
      ∀ value, render (joined ts us) value = render ts value ++ render us value) ∧
    (∀ e, compile b = .error e →
      compile (a ++ b) = .error ⟨a.utf8ByteSize + e.offset, e.reason⟩) := by
  obtain ⟨⟨before, spans⟩, hsound, htext, rfl⟩ := compileAt_eq_ok_iff.1 ha
  have hboth : compile (a ++ b) =
      ((compile b).mapError (CompileError.shift a.utf8ByteSize)).map
        (joined (Layout.tokens ⟨before, spans⟩)) := by
    have happend := compileAt_append (t := b.toList) hsound
      (fun hlast hhead => hseam ⟨htext ▸ hlast, hhead⟩) 0
    rw [htext, ← String.toList_append, Nat.zero_add, size_toList] at happend
    have hadd := compileAt_add a.utf8ByteSize 0 b.toList
    rw [Nat.add_zero] at hadd
    rw [compile, compile, happend, hadd]
  refine ⟨?_, fun us hb => ?_, fun e hb => ?_⟩
  · cases hb : compile b with
    | ok us => simp [hboth, hb, Except.mapError, Except.map]
    | error e => simp [hboth, hb, Except.mapError, Except.map]
  · rw [hboth, hb]
    exact ⟨rfl, render_joined _ us⟩
  · rw [hboth, hb]
    rfl

/-- A literal with a brace at its end, characters of two octets, and behind the seam a
stray mark and a span; or a span that is wrong. -/
theorem compile_append_multibyte :
    let a := "é\x7b\x7b=n\x7d\x7d ü\x7b"
    compile a = .ok [.literal ['é'], .interpolate [.key ['n']], .literal [' ', 'ü', '\x7b']] ∧
    compile (a ++ "\x7d\x7b\x7b=m\x7d\x7d") =
      .ok [.literal ['é'], .interpolate [.key ['n']], .literal [' ', 'ü', '\x7b', '\x7d'],
        .interpolate [.key ['m']]] ∧
    compile (a ++ "ß\x7b\x7bm\x7d\x7d") = .error ⟨14, .unsupported⟩ := by
  intro a
  have ha : compile a =
      .ok [.literal ['é'], .interpolate [.key ['n']], .literal [' ', 'ü', '\x7b']] := by
    have hchars : a.toList =
        ['é', '\x7b', '\x7b', '=', 'n', '\x7d', '\x7d', ' ', 'ü', '\x7b'] := by decide
    rw [compile, hchars]
    cbv
  have hok : compile "\x7d\x7b\x7b=m\x7d\x7d" =
      .ok [.literal ['\x7d'], .interpolate [.key ['m']]] := by cbv
  have herror : compile "ß\x7b\x7bm\x7d\x7d" = .error ⟨2, .unsupported⟩ := by
    have hchars : "ß\x7b\x7bm\x7d\x7d".toList =
        ['ß', '\x7b', '\x7b', 'm', '\x7d', '\x7d'] := rfl
    rw [compile, hchars]
    cbv
  obtain ⟨-, htokens, -⟩ := compile_append ha (b := "\x7d\x7b\x7b=m\x7d\x7d") (by decide)
  obtain ⟨-, -, hoffset⟩ := compile_append ha (b := "ß\x7b\x7bm\x7d\x7d") (by decide)
  exact ⟨ha, (htokens _ hok).1, hoffset _ herror⟩

end VideoPosters.Template
