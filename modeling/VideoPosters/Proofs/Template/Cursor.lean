import VideoPosters.Proofs.Template.Joining

/-!
# The scan of a template with a cursor

A scan can leave the text where it is and keep a cursor instead: how many octets have been read.
Marks are looked for in the octets behind the cursor, and the places where they are found tell where
to cut.  Such a place might be one at which the text cannot be cut, beyond its end or inside a
character, and a sum of octets that is off by one would shift all that follows.  Neither happens:
whatever the text, each turn of the scan cuts between characters only and reads five octets or more,
the cursor stands where the compiler stands, and nothing is left out or read twice.

## Main definitions

* `Piece` — a text up to the end of its first span.
* `Cursor`, `Cursor.start` — where a scan stands.
* `Cursor.turn?` — a turn of a scan, unless it cuts where it cannot be cut.
* `Cursor.Reads` — some turns one after the other.
* `Cursor.IsIn` — whether a cursor stands in a text where it should.

## Main results

* `place?_double` — the first mark in the octets of a text is its first mark.
* `Cursor.turn_cases` — all that a turn can come to, beside what the compiler makes of it.
* `Cursor.Reads.isIn` — what some turns one after the other lead to.
* `Cursor.scan_reads_all` — **no turn fails, nothing is left out, and the scan ends.**
-/

namespace VideoPosters.Template

open Text.Utf8 (size charSize size_append size_cons cut? before? behind? place? cut?_eq_some_iff
  isSome_cut?_iff before?_append behind?_append place?_cons place?_nil)

/-- A text up to the end of its first span. -/
structure Piece where
  /-- What stands before the span. -/
  before : List Char
  /-- What stands between `{{=` and `}}`. -/
  expression : List Char
  deriving DecidableEq, Repr

/-- The text of a piece. -/
def Piece.text (p : Piece) : List Char :=
  p.before ++ ['\x7b', '\x7b', '='] ++ p.expression ++ ['\x7d', '\x7d']

/-- Where the scan of a text stands. -/
structure Cursor where
  /-- How many octets have been read. -/
  offset : Nat
  /-- What is still to be read. -/
  rest : List Char
  /-- The tokens of what has been read. -/
  tokens : List Token
  deriving DecidableEq, Repr

namespace Cursor

/-- The scan of a text at its start. -/
def start (text : List Char) : Cursor := ⟨0, text, []⟩

/-- What a turn of a scan comes to. -/
inductive Turn where
  /-- There is no mark any more. -/
  | ended
  /-- The next span is wrong. -/
  | refused (e : CompileError)
  /-- The next span has been read, and what stands before it. -/
  | read (piece : Piece) (next : Cursor)
  deriving DecidableEq, Repr

/-- The rest of a turn whose span starts at the place `opened`: `before` stands before the span,
the text that is given behind its `{{`. -/
def spanTurn? (c : Cursor) (opened : Nat) (before : List Char) : List Char → Option Turn
  | '=' :: expression =>
    match place? ['\x7d', '\x7d'] expression with
    | none => some (.refused ⟨c.offset + opened, .unclosed⟩)
    | some closed =>
      (before? closed expression).bind fun written =>
        match path? written with
        | .error reason => some (.refused ⟨c.offset + opened, reason⟩)
        | .ok path =>
          let consumed := opened + 2 + 1 + closed + 2
          (behind? consumed c.rest).map fun rest =>
            .read ⟨before, written⟩
              ⟨c.offset + consumed, rest, c.tokens ++ (literalToken before ++ [.interpolate path])⟩
  | _ => some (.refused ⟨c.offset + opened, .unsupported⟩)

/-- A turn of a scan: nothing, if it cuts beyond the end of a text or inside a character. -/
def turn? (c : Cursor) : Option Turn :=
  match place? ['\x7b', '\x7b'] c.rest with
  | none => some .ended
  | some opened =>
    (before? opened c.rest).bind fun before =>
      (behind? (opened + 2) c.rest).bind fun inner => c.spanTurn? opened before inner

/-- Some turns one after the other, and the pieces that they read. -/
inductive Reads : Cursor → List Piece → Cursor → Prop where
  | refl (c : Cursor) : Reads c [] c
  | turn {c next last : Cursor} {piece : Piece} {pieces : List Piece}
      (hturn : c.turn? = some (.read piece next)) (hrest : Reads next pieces last) :
      Reads c (piece :: pieces) last

/-- Whether a cursor stands in a text where it should, once some pieces have been read. -/
structure IsIn (text : String) (pieces : List Piece) (c : Cursor) : Prop where
  /-- It stands within the text, between two characters. -/
  isValid : (String.Pos.Raw.mk c.offset).IsValid text
  /-- What is still to be read is just what stands behind it. -/
  behind : behind? c.offset text.toList = some c.rest
  /-- What has been read and what is still to be read make up the text. -/
  whole : pieces.flatMap Piece.text ++ c.rest = text.toList
  /-- The compiler goes on from there. -/
  compile : compile text = (compileAt c.offset c.rest).map (c.tokens ++ ·)

end Cursor

/-! ### Marks in octets -/

/-- The first mark in the octets of a text is its first mark. -/
theorem place?_double {mark : Char} (hmark : mark.toNat < 0x80) (s : List Char) :
    place? [mark, mark] s = (splitDouble? mark s).map fun (before, _) => size before := by
  fun_induction splitDouble? mark s with
  | case1 c d rest hm =>
    obtain ⟨rfl, rfl⟩ := hm
    rw [place?_cons hmark, if_pos ⟨rest, rfl⟩]
    rfl
  | case2 c d rest hm ih =>
    have hprefix : ¬ [mark, mark] <+: c :: d :: rest := by
      intro h
      have hrest := List.cons_prefix_cons.1 h
      exact hm ⟨hrest.1.symm, (List.cons_prefix_cons.1 hrest.2).1.symm⟩
    rw [place?_cons hmark, if_neg hprefix, ih, Option.map_map, Option.map_map]
    rfl
  | case3 s hs =>
    -- a text of at most one character has no room for a mark
    cases s with
    | nil => rw [place?_nil, Option.map_none]
    | cons c s =>
      cases s with
      | nil =>
        have hprefix : ¬ [mark, mark] <+: [c] := fun h => absurd h.length_le (by simp)
        rw [place?_cons hmark, if_neg hprefix, place?_nil, Option.map_none, Option.map_none]
      | cons d rest => exact absurd rfl (hs c d rest)

theorem place?_open (s : List Char) :
    place? ['\x7b', '\x7b'] s = (splitOpen? s).map fun (before, _) => size before :=
  place?_double (by decide) s

theorem place?_close (s : List Char) :
    place? ['\x7d', '\x7d'] s = (splitClose? s).map fun (before, _) => size before :=
  place?_double (by decide) s

/-! ### One turn -/

/-- A piece is five octets longer than what stands in it. -/
theorem Piece.size_text (p : Piece) :
    size p.text = size p.before + 2 + 1 + size p.expression + 2 := by
  have hopen : size ['\x7b', '\x7b', '='] = 3 := rfl
  have hclose : size ['\x7d', '\x7d'] = 2 := rfl
  unfold Piece.text
  simp only [size_append, hopen, hclose]

namespace Cursor

/-- What a turn comes to once its span is opened, and what the reader of spans makes of it. -/
theorem spanTurn?_cases {c : Cursor} {before inner : List Char}
    (hrest : c.rest = before ++ '\x7b' :: '\x7b' :: inner) :
    (∃ reason, span? inner = .error reason ∧
      c.spanTurn? (size before) before inner = some (.refused ⟨c.offset + size before, reason⟩)) ∨
    ∃ (piece : Piece) (path : List Segment) (after : List Char), piece.before = before ∧
      c.rest = piece.text ++ after ∧ span? inner = .ok (path, after) ∧
      c.spanTurn? (size before) before inner =
        some (.read piece ⟨c.offset + size piece.text, after,
          c.tokens ++ (literalToken before ++ [.interpolate path])⟩) := by
  unfold spanTurn?
  split
  · next expression =>
    rw [place?_close]
    cases hclose : splitClose? expression with
    | none =>
      left
      exact ⟨.unclosed, by simp only [span?, hclose], rfl⟩
    | some cut =>
      obtain ⟨written, after⟩ := cut
      have hexpression : expression = written ++ '\x7d' :: '\x7d' :: after :=
        eq_of_splitDouble? hclose
      have hwritten : before? (size written) expression = some written := by
        rw [hexpression]
        exact before?_append written _
      simp only [Option.map_some, hwritten, Option.bind_some]
      cases hpath : path? written with
      | error reason =>
        left
        exact ⟨reason, by simp only [span?, hclose, hpath], rfl⟩
      | ok path =>
        right
        have hpiece : c.rest = Piece.text ⟨before, written⟩ ++ after := by
          rw [hrest, hexpression]
          simp [Piece.text]
        -- the sum of the octets read is the size of the piece, so that the cut is made behind it
        have hconsumed := Piece.size_text ⟨before, written⟩
        have hafter : behind? (size (Piece.text ⟨before, written⟩)) c.rest = some after := by
          rw [hpiece]
          exact behind?_append _ after
        refine ⟨⟨before, written⟩, path, after, rfl, hpiece, ?_, ?_⟩
        · simp only [span?, hclose, hpath]
        · simp only [← hconsumed, hafter, Option.map_some]
  · next hinner =>
    -- both take the last case of the match on `inner`
    left
    refine ⟨.unsupported, ?_, rfl⟩
    unfold span?
    split
    · next expression => exact absurd rfl (hinner expression)
    · rfl

/-- **All that a turn can come to**, beside what the compiler makes of the same text. -/
theorem turn_cases (c : Cursor) :
    (c.turn? = some .ended ∧ compileAt c.offset c.rest = .ok (literalToken c.rest)) ∨
    (∃ e, c.turn? = some (.refused e) ∧ compileAt c.offset c.rest = .error e) ∨
    ∃ piece next read, c.turn? = some (.read piece next) ∧ c.rest = piece.text ++ next.rest ∧
      next.offset = c.offset + size piece.text ∧ next.tokens = c.tokens ++ read ∧
      compileAt c.offset c.rest = (compileAt next.offset next.rest).map (read ++ ·) := by
  cases hopen : splitOpen? c.rest with
  | none =>
    left
    refine ⟨?_, compileAt_of_splitOpen?_eq_none hopen c.offset⟩
    rw [turn?, place?_open, hopen]
    rfl
  | some cut =>
    right
    obtain ⟨before, inner⟩ := cut
    have hrest : c.rest = before ++ '\x7b' :: '\x7b' :: inner := eq_of_splitDouble? hopen
    have hbefore : before? (size before) c.rest = some before := by
      rw [hrest]
      exact before?_append before _
    -- the mark takes two octets, and the text goes on behind it
    have hinner : behind? (size before + 2) c.rest = some inner := by
      have hmark : size before + 2 = size (before ++ ['\x7b', '\x7b']) := by
        rw [size_append]
        rfl
      have hsplit : c.rest = (before ++ ['\x7b', '\x7b']) ++ inner := by simp [hrest]
      rw [hmark, hsplit]
      exact behind?_append _ inner
    have hturn : c.turn? = c.spanTurn? (size before) before inner := by
      rw [turn?, place?_open, hopen]
      simp only [Option.map_some, hbefore, hinner, Option.bind_some]
    rw [hturn]
    obtain ⟨reason, hspan, hrefused⟩ | ⟨piece, path, after, rfl, hpiece, hspan, hread⟩ :=
      spanTurn?_cases hrest
    · left
      exact ⟨_, hrefused, compileAt_of_span_error hopen hspan c.offset⟩
    · right
      refine ⟨piece, _, literalToken piece.before ++ [.interpolate path], hread, hpiece, rfl, rfl,
        ?_⟩
      have hsize : c.offset + size piece.before + spanSize inner after =
          c.offset + size piece.text := by
        -- both count the octets of `c.rest` up to `after`
        have hwhole := congrArg size hpiece
        have hbrace : charSize '\x7b' = 1 := rfl
        rw [hrest] at hwhole
        simp only [size_append, size_cons, hbrace, piece.size_text] at hwhole ⊢
        unfold spanSize
        omega
      rw [compileAt_of_span hopen hspan, hsize]
      congr 1
      funext tokens
      simp

/-- A turn never cuts where it cannot be cut. -/
theorem exists_turn (c : Cursor) : ∃ turn, c.turn? = some turn := by
  obtain ⟨hturn, -⟩ | ⟨e, hturn, -⟩ | ⟨piece, next, read, hturn, -⟩ := turn_cases c
  · exact ⟨_, hturn⟩
  · exact ⟨_, hturn⟩
  · exact ⟨_, hturn⟩

/-- What a turn that reads a piece leads to. -/
theorem of_turn_eq_read {c next : Cursor} {piece : Piece}
    (h : c.turn? = some (.read piece next)) :
    c.rest = piece.text ++ next.rest ∧ next.offset = c.offset + size piece.text ∧
      ∃ read, next.tokens = c.tokens ++ read ∧
        compileAt c.offset c.rest = (compileAt next.offset next.rest).map (read ++ ·) := by
  obtain ⟨hturn, -⟩ | ⟨e, hturn, -⟩ | ⟨piece', next', read, hturn, hfacts⟩ := turn_cases c
  · rw [hturn] at h
    cases h
  · rw [hturn] at h
    cases h
  · rw [hturn] at h
    cases h
    obtain ⟨hrest, hoffset, htokens, hcompile⟩ := hfacts
    exact ⟨hrest, hoffset, read, htokens, hcompile⟩

/-- A turn that reads a piece reads five octets or more. -/
theorem five_le_of_turn {c next : Cursor} {piece : Piece}
    (h : c.turn? = some (.read piece next)) : c.offset + 5 ≤ next.offset := by
  obtain ⟨-, hoffset, -⟩ := of_turn_eq_read h
  have hsize := piece.size_text
  omega

/-! ### Some turns one after the other -/

section

variable {c last : Cursor} {pieces : List Piece}

/-- The pieces that are read and what is still to be read make up what was to be read. -/
theorem Reads.rest (h : Reads c pieces last) :
    c.rest = pieces.flatMap Piece.text ++ last.rest := by
  induction h with
  | refl c => rfl
  | turn hturn hrest ih =>
    obtain ⟨hpiece, -⟩ := of_turn_eq_read hturn
    rw [hpiece, ih, List.flatMap_cons, List.append_assoc]

/-- The cursor moves on by the octets of the pieces that are read. -/
theorem Reads.offset (h : Reads c pieces last) :
    last.offset = c.offset + size (pieces.flatMap Piece.text) := by
  induction h with
  | refl c => rfl
  | turn hturn hrest ih =>
    obtain ⟨-, hoffset, -⟩ := of_turn_eq_read hturn
    rw [ih, hoffset, List.flatMap_cons, size_append, Nat.add_assoc]

/-- Every piece takes five octets or more. -/
theorem Reads.five_mul_length_le (h : Reads c pieces last) :
    c.offset + 5 * pieces.length ≤ last.offset := by
  induction h with
  | refl c => exact Nat.le_refl c.offset
  | turn hturn hrest ih =>
    have hfive := five_le_of_turn hturn
    rw [List.length_cons]
    omega

/-- The compiler gets on as the scan does. -/
theorem Reads.compileAt_eq (h : Reads c pieces last) : ∃ read, last.tokens = c.tokens ++ read ∧
    compileAt c.offset c.rest = (compileAt last.offset last.rest).map (read ++ ·) := by
  induction h with
  | refl c =>
    refine ⟨[], (List.append_nil c.tokens).symm, ?_⟩
    cases compileAt c.offset c.rest <;> rfl
  | turn hturn hrest ih =>
    obtain ⟨-, -, read, htokens, hcompile⟩ := of_turn_eq_read hturn
    obtain ⟨more, htokens', hcompile'⟩ := ih
    refine ⟨read ++ more, ?_, ?_⟩
    · rw [htokens', htokens, List.append_assoc]
    · rw [hcompile, hcompile', except_map_map]
      simp only [List.append_assoc]

/-- From any cursor some turns lead to one that reads no more, and the compiler ends there too. -/
theorem exists_last (c : Cursor) : ∃ pieces last, Reads c pieces last ∧
    ((last.turn? = some .ended ∧
        compileAt last.offset last.rest = .ok (literalToken last.rest)) ∨
      ∃ e, last.turn? = some (.refused e) ∧ compileAt last.offset last.rest = .error e) := by
  -- each turn that reads a piece leaves less to be read
  induction hn : c.rest.length using Nat.strong_induction_on generalizing c with
  | _ n ih =>
    obtain hended | hrefused | ⟨piece, next, read, hturn, hrest, -⟩ := turn_cases c
    · exact ⟨[], c, .refl c, .inl hended⟩
    · exact ⟨[], c, .refl c, .inr hrefused⟩
    · have hlt : next.rest.length < n := by
        rw [← hn, hrest]
        simp [Piece.text]
        omega
      obtain ⟨pieces, last, hreads, hlast⟩ := ih _ hlt next rfl
      exact ⟨piece :: pieces, last, .turn hturn hreads, hlast⟩

end

/-! ### The scan of a text -/

/-- Wherever the scan of a text gets to, it stands there as it should. -/
theorem Reads.isIn {text : String} {pieces : List Piece} {c : Cursor}
    (h : Reads (start text.toList) pieces c) : IsIn text pieces c := by
  have hwhole : text.toList = pieces.flatMap Piece.text ++ c.rest := h.rest
  have hoffset : c.offset = size (pieces.flatMap Piece.text) := by
    rw [h.offset]
    exact Nat.zero_add _
  have hcut : cut? c.offset text.toList = some (pieces.flatMap Piece.text, c.rest) :=
    cut?_eq_some_iff.2 ⟨hwhole, hoffset.symm⟩
  obtain ⟨read, htokens, hcompile⟩ := h.compileAt_eq
  refine ⟨?_, ?_, hwhole.symm, ?_⟩
  · rw [← isSome_cut?_iff, hcut]
    rfl
  · rw [behind?, hcut]
    rfl
  · rw [htokens]
    exact hcompile

/-- **No turn fails, nothing is left out, and the scan ends.**  Wherever the scan of a text gets
to, the cursor stands within the text between two characters, and what is still to be read is
just what stands behind it; the pieces that have been read, of five octets or more each, and what
is still to be read make up the text.  The turn that is made there cuts between characters only,
and if it goes on it reads five octets or more.  The scan does come to a turn that does not go
on, and that is where the compiler ends or finds the span that is wrong. -/
theorem scan_reads_all (text : String) :
    (∀ pieces c, Reads (start text.toList) pieces c →
      IsIn text pieces c ∧ 5 * pieces.length ≤ c.offset ∧ c.offset ≤ text.utf8ByteSize ∧
      (∃ turn, c.turn? = some turn) ∧
      ∀ piece next, c.turn? = some (.read piece next) → c.offset + 5 ≤ next.offset) ∧
    ∃ pieces last, Reads (start text.toList) pieces last ∧
      ((last.turn? = some .ended ∧
          compile text = .ok (last.tokens ++ literalToken last.rest)) ∨
        ∃ e, last.turn? = some (.refused e) ∧ compile text = .error e) := by
  constructor
  · intro pieces c hreads
    have hin := hreads.isIn
    have hfive := hreads.five_mul_length_le
    have hstart : (start text.toList).offset = 0 := rfl
    rw [hstart, Nat.zero_add] at hfive
    have hle : c.offset ≤ text.utf8ByteSize := hin.isValid.le_rawEndPos
    exact ⟨hin, hfive, hle, exists_turn c, fun piece next => five_le_of_turn⟩
  · obtain ⟨pieces, last, hreads, hlast⟩ := exists_last (start text.toList)
    refine ⟨pieces, last, hreads, ?_⟩
    rw [hreads.isIn.compile]
    obtain ⟨hturn, hcompile⟩ | ⟨e, hturn, hcompile⟩ := hlast
    · left
      rw [hcompile]
      exact ⟨hturn, rfl⟩
    · right
      rw [hcompile]
      exact ⟨e, hturn, rfl⟩

/-- Characters of one and two octets around two spans, and a stray brace behind them. -/
theorem scan_reads_all_multibyte :
    let text := "é\x7b\x7b=a\x7d\x7dß\x7b\x7b= b.0 \x7d\x7d\x7bü"
    let second : Cursor :=
      ⟨8, ['ß', '\x7b', '\x7b', '=', ' ', 'b', '.', '0', ' ', '\x7d', '\x7d', '\x7b', 'ü'],
        [.literal ['é'], .interpolate [.key ['a']]]⟩
    let last : Cursor :=
      ⟨20, ['\x7b', 'ü'], [.literal ['é'], .interpolate [.key ['a']], .literal ['ß'],
        .interpolate [.key ['b'], .index 0]]⟩
    let pieces : List Piece := [⟨['é'], ['a']⟩, ⟨['ß'], [' ', 'b', '.', '0', ' ']⟩]
    (start text.toList).turn? = some (.read ⟨['é'], ['a']⟩ second) ∧ 0 + 5 ≤ second.offset ∧
    Reads (start text.toList) pieces last ∧ IsIn text pieces last ∧
    5 * pieces.length ≤ last.offset ∧ last.offset ≤ text.utf8ByteSize ∧
    last.turn? = some .ended := by
  intro text second last pieces
  have hchars : text.toList =
      ['é', '\x7b', '\x7b', '=', 'a', '\x7d', '\x7d', 'ß', '\x7b', '\x7b', '=', ' ', 'b', '.', '0',
        ' ', '\x7d', '\x7d', '\x7b', 'ü'] := by decide
  have hfirst : (start text.toList).turn? = some (.read ⟨['é'], ['a']⟩ second) := by
    rw [hchars]
    decide +kernel
  have hsecond : second.turn? = some (.read ⟨['ß'], [' ', 'b', '.', '0', ' ']⟩ last) := by
    decide +kernel
  have hreads : Reads (start text.toList) pieces last := .turn hfirst (.turn hsecond (.refl last))
  obtain ⟨hin, hfive, hle, -⟩ := (scan_reads_all text).1 pieces last hreads
  obtain ⟨-, -, -, -, hturn⟩ := (scan_reads_all text).1 [] (start text.toList) (.refl _)
  exact ⟨hfirst, hturn _ _ hfirst, hreads, hin, hfive, hle, by decide +kernel⟩

end Cursor

end VideoPosters.Template
