import VideoPosters.Proofs.Template.Canonical
import VideoPosters.Proofs.Template.Joining

/-!
# Spreading arrays over templates

An array is inserted as its items with commas between them.  A template can say the same
item by item: a span for each index, with commas between the spans.  And where an item is
an array again, its span can be replaced in the same way, as deep as arrays are nested.
All these templates render alike, although null is left out by the value in the one and by
the span in the other, and although no items are no spans at all.

A template fills in for a text wherever it stands: it compiles at any octet of a longer
text, and its end cannot be taken for the start of a mark.  This is what joining templates
keeps, and so what the induction over the spreading carries.

## Main definitions

* `spanText` — the span of an expression.
* `itemSpans` — the spans for the items of an array, with commas between them.
* `Spreads` — the templates that a span may be spread over.
* `Fills` — whether a template renders to a text, wherever it stands.

## Main results

* `Fills.joinWith` — joined templates render to their joined texts.
* `fills_of_spreads` — a template that a span is spread over renders as the span does.
* `render_array` — **arrays and their items render alike.**
-/

namespace VideoPosters.Template

open Text (joinWith)

/-- The span of an expression. -/
def spanText (expression : List Char) : List Char :=
  ['\x7b', '\x7b', '='] ++ expression ++ ['\x7d', '\x7d']

/-- The spans for the first items of an array at a path, with commas between them. -/
def itemSpans (path : List Segment) (count : Nat) : List Char :=
  joinWith [','] ((List.range count).map fun i =>
    spanText (writtenPath path ++ '.' :: Decimal.numeral i))

/-- The templates that the span for a path may be spread over: itself, however the path is
spelled; or, where an array is, templates for its items with commas between them. -/
inductive Spreads (value : Json) : List Segment → List Char → Prop where
  | span {path : List Segment} {expression : List Char} (h : Expression expression path) :
      Spreads value path (spanText expression)
  | items {path : List Segment} {items : List Json} {texts : List (List Char)}
      (hat : lookup? value path = some (.array items)) (hlength : texts.length = items.length)
      (hitems : ∀ i text, texts[i]? = some text → Spreads value (path ++ [.index i]) text) :
      Spreads value path (joinWith [','] texts)

/-! ### Paths and items -/

/-- A path in two parts is followed part by part. -/
theorem lookup?_append (value : Json) (path rest : List Segment) :
    lookup? value (path ++ rest) = (lookup? value path).bind (lookup? · rest) := by
  induction path generalizing value with
  | nil => rfl
  | cons segment path ih =>
    rw [List.cons_append, lookup?_cons, lookup?_cons, Option.bind_assoc]
    congr 1
    funext next
    exact ih next

/-- What is inserted for an item of an array at a path. -/
theorem insertedAt_item {value : Json} {path : List Segment} {items : List Json}
    (hat : lookup? value path = some (.array items)) {i : Nat} (hi : i < items.length) :
    insertedAt value (path ++ [.index i]) = inserted items[i] := by
  have hitem : lookup? value (path ++ [.index i]) = some items[i] := by
    rw [lookup?_append, hat]
    simp [Segment.step?, Json.at?, hi]
  rw [insertedAt, hitem]

/-- Arrays are inserted as their items with commas between them. -/
theorem insertedItems_eq (items : List Json) :
    insertedItems items = joinWith [','] (items.map inserted) := by
  induction items with
  | nil => rw [insertedItems]; rfl
  | cons item rest ih =>
    cases rest with
    | nil => rw [insertedItems]; rfl
    | cons next rest =>
      rw [insertedItems, ih, List.map_cons, List.map_cons, List.map_cons,
        Text.joinWith_cons_cons, List.append_assoc]
      rfl

theorem insertedAt_array {value : Json} {path : List Segment} {items : List Json}
    (hat : lookup? value path = some (.array items)) :
    insertedAt value path = joinWith [','] (items.map inserted) := by
  rw [insertedAt, hat, ← insertedItems_eq]
  exact inserted.eq_3 items

/-- An index behind a path is written behind a dot. -/
theorem writtenPath_append_index {path : List Segment} (hne : path ≠ []) (i : Nat) :
    writtenPath (path ++ [.index i]) = writtenPath path ++ '.' :: Decimal.numeral i := by
  have hpieces : path.map Segment.written ≠ [] := by simpa using hne
  rw [writtenPath, List.map_append, List.map_singleton, Text.joinWith_concat _ hpieces,
    List.append_assoc]
  rfl

/-! ### Templates that fill in for a text -/

/-- Whether a template renders to a text, wherever it stands. -/
structure Fills (value : Json) (template text : List Char) : Prop where
  compiles : ∀ offset, ∃ tokens, compileAt offset template = .ok tokens ∧
    render tokens value = text
  /-- No mark can come to stand across its end. -/
  noBrace : template.getLast? ≠ some '\x7b'

/-- Literal text fills in for itself. -/
theorem fills_literal (value : Json) {text : List Char} (hmark : ¬ ['\x7b', '\x7b'] <:+: text)
    (hbrace : text.getLast? ≠ some '\x7b') : Fills value text text := by
  refine ⟨fun offset => ⟨literalToken text, ?_, render_literalToken text value⟩, hbrace⟩
  exact compileAt_of_splitOpen?_eq_none (splitDouble?_eq_none_iff.2 hmark) offset

/-- A span fills in for what is inserted for its path. -/
theorem fills_span (value : Json) {path : List Segment} {expression : List Char}
    (h : Expression expression path) :
    Fills value (spanText expression) (insertedAt value path) := by
  have hsound : Layout.IsSound ⟨[], [⟨expression, path, []⟩]⟩ :=
    -- a layout of one span with nothing around it
    Layout.isSound_cons_iff.2 ⟨by simp, by simp, h, Layout.isSound_nil_iff.2 (by simp)⟩
  have htext : Layout.text ⟨[], [⟨expression, path, []⟩]⟩ = spanText expression := by
    simp [spanText]
  have hlast : (spanText expression).getLast? = some '\x7d' := by
    rw [spanText, List.getLast?_append]
    rfl
  refine ⟨fun offset => ⟨_, htext ▸ compileAt_text hsound offset, ?_⟩, by simp [hlast]⟩
  rw [Layout.render_tokens, insertedAt_eq_shown]
  simp [Layout.filled, Span.filled]

/-- Templates one after the other fill in for both texts. -/
theorem Fills.append {value : Json} {s t out out' : List Char} (h : Fills value s out)
    (h' : Fills value t out') : Fills value (s ++ t) (out ++ out') := by
  constructor
  · intro offset
    obtain ⟨tokens, htokens, hrender⟩ := h.compiles offset
    -- the first template has a layout, whose scan goes on with the second one
    obtain ⟨⟨before, spans⟩, hsound, htext, rfl⟩ := compileAt_eq_ok_iff.1 htokens
    obtain ⟨rest, hrest, hrender'⟩ := h'.compiles (offset + Text.Utf8.size s)
    have hseam : s.getLast? = some '\x7b' → t.head? ≠ some '\x7b' :=
      fun hlast => absurd hlast h.noBrace
    -- no template here ends in a brace, so no mark comes to stand across the seam
    rw [← htext] at hseam hrest ⊢
    refine ⟨joined (Layout.tokens ⟨before, spans⟩) rest, ?_, ?_⟩
    · rw [compileAt_append hsound hseam offset, hrest]
      rfl
    · rw [render_joined, hrender, hrender']
  · rw [List.getLast?_append]
    cases hlast : t.getLast? with
    | none => exact h.noBrace
    | some c =>
      rw [Option.some_or, ← hlast]
      exact h'.noBrace

/-- Joined templates fill in for their joined texts. -/
theorem Fills.joinWith {value : Json} {templates texts : List (List Char)}
    (h : List.Forall₂ (Fills value) templates texts) :
    Fills value (joinWith [','] templates) (joinWith [','] texts) := by
  have hcomma : Fills value [','] [','] :=
    fills_literal value (fun hinfix => absurd hinfix.length_le (by decide)) (by decide)
  induction h with
  | nil => exact fills_literal value (by simp) (by simp)
  | cons hfirst hrest ih =>
    cases hrest with
    | nil => exact hfirst
    | cons hnext hrest =>
      rw [Text.joinWith_cons_cons, Text.joinWith_cons_cons]
      exact (hfirst.append hcomma).append ih

/-! ### Spreading -/

/-- A template that a span is spread over renders as the span does. -/
theorem fills_of_spreads {value : Json} {path : List Segment} {template : List Char}
    (h : Spreads value path template) : Fills value template (insertedAt value path) := by
  induction h with
  | span h => exact fills_span value h
  | @items path items texts hat hlength hitems ih =>
    -- the templates for the items fill in for what is inserted for each item
    rw [insertedAt_array hat]
    refine Fills.joinWith (List.forall₂_iff_get.2 ⟨by simpa using hlength, fun i hi hi' => ?_⟩)
    have hitem : i < items.length := hlength ▸ hi
    have hfills := ih i texts[i] (List.getElem?_eq_getElem hi)
    rw [insertedAt_item hat hitem] at hfills
    simpa using hfills

/-- Wherever a template may stand, it may stand alone. -/
theorem Fills.compile {value : Json} {template text : List Char} (h : Fills value template text) :
    ∃ tokens, compile (String.ofList template) = .ok tokens ∧ render tokens value = text := by
  rw [Template.compile, String.toList_ofList]
  exact h.compiles 0

/-- The spans for all items are what the span for an array may be spread over. -/
theorem spreads_itemSpans {value : Json} {path : List Segment} {items : List Json}
    (hpath : Token.IsWritable (.interpolate path)) (hat : lookup? value path = some (.array items))
    (hlength : items.length ≤ 2 ^ 64) : Spreads value path (itemSpans path items.length) := by
  refine .items hat (by simp) fun i text htext => ?_
  obtain ⟨hi, rfl⟩ := List.getElem?_eq_some_iff.1 htext
  rw [List.length_map, List.length_range] at hi
  have hwritable : ∀ segment ∈ path ++ [.index i], segment.IsWritable := by
    rw [List.forall_mem_append, List.forall_mem_singleton]
    exact ⟨hpath.2, Nat.lt_of_lt_of_le hi hlength⟩
  have hexpression := expression_written (by simp) hwritable
  rw [writtenPath_append_index hpath.1] at hexpression
  simpa using Spreads.span hexpression

/-- **Arrays and their items render alike.**  Where a value has an array at a path that can
be written, the span for the path renders to what is inserted for the items, with commas
between.  The spans for the items with commas between them render to the same, or to nothing
if there are no items; an index that can be written is below `2 ^ 64`, and no array in memory
has more items than that.  And so does each template that comes of replacing, any number of
times, the span for an array by templates for its items. -/
theorem render_array {value : Json} {path : List Segment} {items : List Json}
    (hpath : Token.IsWritable (.interpolate path))
    (hat : lookup? value path = some (.array items)) :
    ∃ whole, compile (String.ofList (spanText (writtenPath path))) = .ok whole ∧
      render whole value = joinWith [','] (items.map inserted) ∧
      (items.length ≤ 2 ^ 64 →
        ∃ tokens, compile (String.ofList (itemSpans path items.length)) = .ok tokens ∧
          render tokens value = render whole value) ∧
      ∀ template, Spreads value path template →
        ∃ tokens, compile (String.ofList template) = .ok tokens ∧
          render tokens value = render whole value := by
  have hspread : ∀ template, Spreads value path template →
      ∃ tokens, compile (String.ofList template) = .ok tokens ∧
        render tokens value = insertedAt value path :=
    fun template h => (fills_of_spreads h).compile
  obtain ⟨whole, hwhole, hrender⟩ := hspread _ (.span (expression_written hpath.1 hpath.2))
  rw [← hrender] at hspread
  refine ⟨whole, hwhole, ?_, fun hlength => ?_, hspread⟩
  · rw [hrender, insertedAt_array hat]
  · exact hspread _ (spreads_itemSpans hpath hat hlength)

/-- Null, no items, and items in items, one of them an object: the spans for the items, and
a template in which the arrays among them are spread as well. -/
theorem render_array_nested :
    let value : Json := .object [("a", .array [.null, .array [],
      .array [.text "x", .null, .object [("k", .array [])]]])]
    let template := "\x7b\x7b=a.0\x7d\x7d,,\x7b\x7b=a.2.0\x7d\x7d,\x7b\x7b=a.2.1\x7d\x7d," ++
      "\x7b\x7b= a.2.02 \x7d\x7d"
    String.ofList (itemSpans [.key ['a']] 3) =
      "\x7b\x7b=a.0\x7d\x7d,\x7b\x7b=a.1\x7d\x7d,\x7b\x7b=a.2\x7d\x7d" ∧
    ∀ text ∈ [String.ofList (itemSpans [.key ['a']] 3), template],
      ∃ tokens, compile text = .ok tokens ∧
        render tokens value = ",,x,,\x7b\"k\":[]\x7d".toList := by
  intro value template
  have hpath : Token.IsWritable (.interpolate [.key ['a']]) := by decide +kernel
  have hat : lookup? value [.key ['a']] = some (.array [.null, .array [],
      .array [.text "x", .null, .object [("k", .array [])]]]) := rfl
  obtain ⟨whole, -, hrender, hitems, hspread⟩ := render_array hpath hat
  have hwhole : render whole value = ",,x,,\x7b\"k\":[]\x7d".toList :=
    hrender.trans (by decide +kernel)
  rw [hwhole] at hitems hspread
  have hspan : ∀ path expression, path? expression = .ok path →
      Spreads value path (spanText expression) :=
    fun _ _ h => .span (path?_eq_ok_iff.1 h)
  -- one array after the other is spread, the innermost ones first
  have hempty : Spreads value [.key ['a'], .index 1] (joinWith [','] []) :=
    .items rfl rfl (by simp)
  let inner := joinWith [','] [spanText "a.2.0".toList, spanText "a.2.1".toList,
    spanText " a.2.02 ".toList]
  have hinner : Spreads value [.key ['a'], .index 2] inner := by
    refine .items rfl rfl fun i text h => ?_
    match i with
    | 0 => exact Option.some.inj h ▸ hspan _ _ (by decide +kernel)
    | 1 => exact Option.some.inj h ▸ hspan _ _ (by decide +kernel)
    | 2 => exact Option.some.inj h ▸ hspan _ _ (by decide +kernel)
    | i + 3 => cases h
  have houter : Spreads value [.key ['a']] (joinWith [','] [spanText "a.0".toList, [], inner]) := by
    refine .items hat rfl fun i text h => ?_
    match i with
    | 0 => exact Option.some.inj h ▸ hspan _ _ (by decide +kernel)
    | 1 => exact Option.some.inj h ▸ hempty
    | 2 => exact Option.some.inj h ▸ hinner
    | i + 3 => cases h
  have htemplate : String.ofList (joinWith [','] [spanText "a.0".toList, [], inner]) = template := by
    decide +kernel
  refine ⟨by decide +kernel, List.forall_mem_cons.2 ⟨hitems (by decide), ?_⟩⟩
  rw [List.forall_mem_singleton]
  exact htemplate ▸ hspread _ houter

end VideoPosters.Template
