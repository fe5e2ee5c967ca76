import VideoPosters.Proofs.Json.Spelling

/-!
# How documents are written

The grammar of values and documents.  It relates the shape of a value to the texts in which it
may be written: the white space between marks is free, and so are the ways to write characters
and exponents.  Whatever shape the grammar gives to a text, the reader of documents gives it too.

## Main definitions

* `Spells` — how a value is written.
* `IsSpelled` — whether a document is a value with blanks around it.

## Main results

* `readValue_of_spells` — a value is read from whatever way it is written.
* `Spells.skip_eq_none` — a value that is written can be skipped.
* `IsSpelled.ofText_eq` — **a document is read from whatever way it is written.**
-/

namespace VideoPosters.Json

/-- Whether a text is of blanks. -/
def IsBlanks (s : List Char) : Prop := ∀ c ∈ s, isSpace c = true

instance (s : List Char) : Decidable (IsBlanks s) :=
  decidable_of_iff (s.all isSpace = true) List.all_eq_true

/-- A field as it is written: its name, a colon among blanks, and its value. -/
def fieldText (body blanks blanks' text : List Char) : List Char :=
  '"' :: (body ++ '"' :: (blanks ++ ':' :: (blanks' ++ text)))

mutual

/-- How a value is written. -/
inductive Spells : Node → List Char → Prop where
  | null : Spells .null "null".toList
  | bool {b : Bool} : Spells (.bool b) (if b then "true" else "false").toList
  | number {n : Numeral} {text : List Char} (h : SpellsNumeral n text) : Spells (.number n) text
  | text {p : Passage} {body : List Char} (h : SpellsPassage p body) :
    Spells (.text p) ('"' :: (body ++ ['"']))
  | noItems {blanks : List Char} (hblanks : IsBlanks blanks) :
    Spells (.array [] none) ('[' :: (blanks ++ [']']))
  | array {items : List Node} {blanks text : List Char} (hblanks : IsBlanks blanks)
      (hitems : SpellsItems items text) :
    Spells (.array items none) ('[' :: (blanks ++ (text ++ [']'])))
  | noFields {blanks : List Char} (hblanks : IsBlanks blanks) :
    Spells (.object [] none) ('\x7b' :: (blanks ++ ['\x7d']))
  | object {fields : List (Passage × Node)} {blanks text : List Char} (hblanks : IsBlanks blanks)
      (hfields : SpellsFields fields text) :
    Spells (.object fields none) ('\x7b' :: (blanks ++ (text ++ ['\x7d'])))

/-- How the items of an array are written, from the first of them on. -/
inductive SpellsItems : List Node → List Char → Prop where
  | last {item : Node} {text blanks : List Char} (h : Spells item text)
      (hblanks : IsBlanks blanks) : SpellsItems [item] (text ++ blanks)
  | next {item : Node} {items : List Node} {text blanks blanks' more : List Char}
      (h : Spells item text) (hblanks : IsBlanks blanks) (hblanks' : IsBlanks blanks')
      (hitems : SpellsItems items more) :
    SpellsItems (item :: items) (text ++ (blanks ++ ',' :: (blanks' ++ more)))

/-- How the fields of an object are written, from the first of them on. -/
inductive SpellsFields : List (Passage × Node) → List Char → Prop where
  | last {name : Passage} {value : Node} {body text before after blanks : List Char}
      (hname : SpellsPassage name body) (hbefore : IsBlanks before) (hafter : IsBlanks after)
      (h : Spells value text) (hblanks : IsBlanks blanks) :
    SpellsFields [(name, value)] (fieldText body before after text ++ blanks)
  | next {name : Passage} {value : Node} {fields : List (Passage × Node)}
      {body text before after blanks blanks' more : List Char}
      (hname : SpellsPassage name body) (hbefore : IsBlanks before) (hafter : IsBlanks after)
      (h : Spells value text) (hblanks : IsBlanks blanks) (hblanks' : IsBlanks blanks')
      (hfields : SpellsFields fields more) :
    SpellsFields ((name, value) :: fields)
      (fieldText body before after text ++ (blanks ++ ',' :: (blanks' ++ more)))

end

/-- Whether a document is a value with blanks around it. -/
def IsSpelled (document : String) (node : Node) : Prop :=
  ∃ before text after, IsBlanks before ∧ Spells node text ∧ IsBlanks after ∧
    document.toList = before ++ (text ++ after)

/-! ### Skipping -/

mutual

/-- A value that is written can be skipped. -/
theorem Spells.skip_eq_none {node : Node} {text : List Char} :
    Spells node text → node.skip = none
  | .null | .bool | .number _ => rfl
  | .text h => h.skip_eq_none
  | .noItems _ | .noFields _ => rfl
  | .array _ h => by rw [Node.skip, h.skip_eq_none, Option.or_none]
  | .object _ h => by rw [Node.skip, h.skip_eq_none, Option.or_none]

theorem SpellsItems.skip_eq_none {items : List Node} {text : List Char} :
    SpellsItems items text → skipItems items = none
  | .last h _ => by rw [skipItems, h.skip_eq_none]; rfl
  | .next h _ _ hitems => by rw [skipItems, h.skip_eq_none, hitems.skip_eq_none]; rfl

theorem SpellsFields.skip_eq_none {fields : List (Passage × Node)} {text : List Char} :
    SpellsFields fields text → skipFields fields = none
  | .last hname _ _ h _ => by rw [skipFields, hname.skip_eq_none, h.skip_eq_none]; rfl
  | .next hname _ _ h _ _ hfields => by
    rw [skipFields, hname.skip_eq_none, h.skip_eq_none, hfields.skip_eq_none]; rfl

end

/-! ### What is within a value -/

theorem SpellsItems.exists_of_mem {items : List Node} {text : List Char} {item : Node} :
    SpellsItems items text → item ∈ items → ∃ text, Spells item text
  | .last h _, hitem => by
    rw [List.mem_singleton.1 hitem]
    exact ⟨_, h⟩
  | .next h _ _ hitems, hitem => by
    rcases List.mem_cons.1 hitem with rfl | hitem
    · exact ⟨_, h⟩
    · exact hitems.exists_of_mem hitem

theorem SpellsFields.exists_of_mem {fields : List (Passage × Node)} {text : List Char}
    {name : Passage} {value : Node} :
    SpellsFields fields text → (name, value) ∈ fields → ∃ text, Spells value text
  | .last _ _ _ h _, hfield => by
    obtain ⟨rfl, rfl⟩ := Prod.mk.inj (List.mem_singleton.1 hfield)
    exact ⟨_, h⟩
  | .next _ _ _ h _ _ hfields, hfield => by
    rcases List.mem_cons.1 hfield with heq | hfield
    · obtain ⟨rfl, rfl⟩ := Prod.mk.inj heq
      exact ⟨_, h⟩
    · exact hfields.exists_of_mem hfield

/-- The items of an array that is written are written. -/
theorem Spells.of_mem_array {items : List Node} {stop : Option Break} {text : List Char}
    {item : Node} (h : Spells (.array items stop) text) (hitem : item ∈ items) :
    ∃ text, Spells item text := by
  cases h with
  | noItems => cases hitem
  | array _ hitems => exact hitems.exists_of_mem hitem

/-- The values of an object that is written are written. -/
theorem Spells.of_mem_object {fields : List (Passage × Node)} {stop : Option Break}
    {text : List Char} {name : Passage} {value : Node} (h : Spells (.object fields stop) text)
    (hfield : (name, value) ∈ fields) : ∃ text, Spells value text := by
  cases h with
  | noFields => cases hfield
  | object _ hfields => exact hfields.exists_of_mem hfield

theorem Spells.isClosed {node : Node} {text : List Char} (h : Spells node text) :
    node.isClosed = true := by
  cases h with
  | text h =>
    rw [Node.isClosed, h.skip_eq_none]
    rfl
  | _ => rfl

/-! ### Reading -/

section

variable {blanks rest : List Char} {c : Char}

theorem isBlanks_nil : IsBlanks [] := fun _ h => nomatch h

theorem skipSpace_append (h : IsBlanks blanks) (s : List Char) :
    skipSpace (blanks ++ s) = skipSpace s := List.dropWhile_append_of_pos h

theorem skipSpace_cons (h : isSpace c = false) (s : List Char) :
    skipSpace (c :: s) = c :: s := List.dropWhile_cons_of_neg (by simp [h])

theorem skipSpace_append_cons (hblanks : IsBlanks blanks) (h : isSpace c = false)
    (s : List Char) : skipSpace (blanks ++ c :: s) = c :: s := by
  rw [skipSpace_append hblanks, skipSpace_cons h]

/-- A mark may stand behind a value and some blanks. -/
theorem endsValue_append_cons (hblanks : IsBlanks blanks) (c : Char)
    (h : c ∈ [',', ']', '\x7d']) (rest : List Char) : EndsValue (blanks ++ c :: rest) := by
  intro d hd
  -- the mark itself comes next if there are no blanks
  cases blanks with
  | nil =>
    obtain rfl := Option.some.inj hd
    exact .inr h
  | cons b blanks =>
    obtain rfl := Option.some.inj hd
    exact .inl (hblanks _ List.mem_cons_self)

/-- Blanks before a value make no difference. -/
theorem readValue_append_cons (hblanks : IsBlanks blanks) (h : isSpace c = false) (fuel : Nat)
    (s : List Char) : readValue (fuel + 1) (blanks ++ c :: s) = readValue (fuel + 1) (c :: s) := by
  rw [readValue.eq_def, readValue.eq_def (fuel + 1) (c :: s)]
  simp only [skipSpace_append_cons hblanks h, skipSpace_cons h]

theorem readWord_append (word : List Char) (node : Node) (rest : List Char) :
    readWord word node (word ++ rest) = (node, rest) := by
  induction word with
  | nil => rfl
  | cons c word ih => rw [List.cons_append, readWord, if_pos rfl, ih]

theorem readValue_null (fuel : Nat) (rest : List Char) :
    readValue (fuel + 1) ("null".toList ++ rest) = (.null, rest) := by
  rw [readValue.eq_def]
  exact readWord_append "ull".toList .null rest

theorem readValue_bool (b : Bool) (fuel : Nat) (rest : List Char) :
    readValue (fuel + 1) ((if b then "true" else "false").toList ++ rest) = (.bool b, rest) := by
  rw [readValue.eq_def]
  cases b with
  | true => exact readWord_append "rue".toList (.bool true) rest
  | false => exact readWord_append "alse".toList (.bool false) rest

theorem readValue_text {p : Passage} {body : List Char} (h : SpellsPassage p body) (fuel : Nat)
    (rest : List Char) : readValue (fuel + 1) ('"' :: (body ++ '"' :: rest)) = (.text p, rest) := by
  rw [readValue.eq_def]
  exact congrArg (fun read => ((.text read.1, read.2) : Step)) (readText_of_spells h rest)

theorem ne_of_isDigit {d : Char} (h : c.isDigit = true) (hd : d.isDigit = false) : ¬ c = d := by
  rintro rfl
  rw [h] at hd
  cases hd

theorem isSpace_of_isDigit (h : c.isDigit = true) : isSpace c = false := by
  simp [isSpace, ne_of_isDigit h (d := ' ') rfl, ne_of_isDigit h (d := '\n') rfl,
    ne_of_isDigit h (d := '\t') rfl, ne_of_isDigit h (d := '\r') rfl]

theorem readValue_number {n : Numeral} {text : List Char} (h : SpellsNumeral n text)
    (hrest : EndsValue rest) (fuel : Nat) :
    readValue (fuel + 1) (text ++ rest) = (.number n, rest) := by
  obtain @⟨negative, whole, fractionText, exponentText, fraction, exponent, hwhole, hfraction,
    hexponent⟩ := h
  have hread := readNumber_of_spells hwhole hfraction hexponent hrest
  cases negative with
  | true =>
    rw [if_pos rfl, List.cons_append, List.nil_append, List.cons_append, List.append_assoc,
      List.append_assoc, readValue.eq_def]
    exact hread true
  | false =>
    rw [if_neg Bool.false_ne_true, List.nil_append, List.append_assoc, List.append_assoc]
    -- without a sign the number starts with a digit
    obtain ⟨d, digits, rfl⟩ := List.exists_cons_of_ne_nil hwhole.1.1
    have hd : d.isDigit = true := hwhole.1.2 d List.mem_cons_self
    rw [List.cons_append, readValue.eq_def]
    dsimp only
    rw [skipSpace_cons (isSpace_of_isDigit hd)]
    dsimp only
    -- no word, text or sign starts with a digit
    rw [if_neg (ne_of_isDigit hd rfl), if_neg (ne_of_isDigit hd rfl),
      if_neg (ne_of_isDigit hd rfl), if_neg (ne_of_isDigit hd rfl),
      if_neg (ne_of_isDigit hd rfl), if_pos hd]
    exact hread false

/-- What stands behind the bracket that opens an array. -/
def readArray (fuel : Nat) : List Char → Step
  | [] => (.array [] (some .ended), [])
  | ']' :: rest => (.array [] none, rest)
  | s => (.array (readItems fuel s).1 (readItems fuel s).2.1, (readItems fuel s).2.2)

/-- What stands behind the brace that opens an object. -/
def readObject (fuel : Nat) : List Char → Step
  | [] => (.object [] (some .ended), [])
  | '\x7d' :: rest => (.object [] none, rest)
  | s => (.object (readFields fuel s).1 (readFields fuel s).2.1, (readFields fuel s).2.2)

theorem readValue_bracket (fuel : Nat) (s : List Char) :
    readValue (fuel + 1) ('[' :: s) = readArray fuel (skipSpace s) := by
  rw [readValue.eq_def]
  rfl

theorem readValue_brace (fuel : Nat) (s : List Char) :
    readValue (fuel + 1) ('\x7b' :: s) = readObject fuel (skipSpace s) := by
  rw [readValue.eq_def]
  rfl

theorem readArray_items (hend : c ≠ ']') {fuel : Nat} {s : List Char} {items : List Node}
    {stop : Option Break} (h : readItems fuel (c :: s) = (items, stop, rest)) :
    readArray fuel (c :: s) = (.array items stop, rest) := by
  rw [readArray.eq_def]
  split
  · next heq => cases heq
  · next heq => exact absurd (List.cons.inj heq).1 hend
  · rw [h]

theorem readItems_last {fuel : Nat} {s s' : List Char} {item : Node}
    (h : readValue fuel s = (item, s')) (hclosed : item.isClosed = true)
    (hnext : skipSpace s' = ']' :: rest) : readItems (fuel + 1) s = ([item], none, rest) := by
  rw [readItems]
  simp only [h, hclosed, hnext, if_true]

theorem readItems_next {fuel : Nat} {s s' s'' : List Char} {item : Node} {items : List Node}
    {stop : Option Break} (h : readValue fuel s = (item, s')) (hclosed : item.isClosed = true)
    (hnext : skipSpace s' = ',' :: s'') (hitems : readItems fuel s'' = (items, stop, rest)) :
    readItems (fuel + 1) s = (item :: items, stop, rest) := by
  rw [readItems]
  simp only [h, hclosed, hnext, hitems, if_true]

section

variable {p : Passage} {value : Node} {body before after text s s' : List Char} {fuel : Nat}
  {fields : List (Passage × Node)} {stop : Option Break}

theorem length_fieldText : (fieldText body before after text).length =
    body.length + before.length + after.length + text.length + 3 := by
  simp only [fieldText, List.length_cons, List.length_append]
  omega

theorem readFields_last (hname : SpellsPassage p body) (hbefore : IsBlanks before)
    (h : readValue fuel (after ++ (text ++ s)) = (value, s)) (hclosed : value.isClosed = true)
    (hblanks : IsBlanks blanks) (hnext : skipSpace s = '\x7d' :: rest) :
    readFields (fuel + 1) (blanks ++ (fieldText body before after text ++ s)) =
      ([(p, value)], none, rest) := by
  rw [readFields, fieldText, List.cons_append, skipSpace_append_cons hblanks (by decide)]
  simp only [List.append_assoc, List.cons_append, readText_of_spells hname, hname.skip_eq_none,
    skipSpace_append_cons hbefore (show isSpace ':' = false from rfl), h, hclosed, hnext,
    Option.isSome_none, Bool.false_eq_true, if_false, if_true]

theorem readFields_next (hname : SpellsPassage p body) (hbefore : IsBlanks before)
    (h : readValue fuel (after ++ (text ++ s)) = (value, s)) (hclosed : value.isClosed = true)
    (hblanks : IsBlanks blanks) (hnext : skipSpace s = ',' :: s')
    (hfields : readFields fuel s' = (fields, stop, rest)) :
    readFields (fuel + 1) (blanks ++ (fieldText body before after text ++ s)) =
      ((p, value) :: fields, stop, rest) := by
  rw [readFields, fieldText, List.cons_append, skipSpace_append_cons hblanks (by decide)]
  simp only [List.append_assoc, List.cons_append, readText_of_spells hname, hname.skip_eq_none,
    skipSpace_append_cons hbefore (show isSpace ':' = false from rfl), h, hclosed, hnext, hfields,
    Option.isSome_none, Bool.false_eq_true, if_false, if_true]

end

end

/-- The first character of a value tells it from white space and from the end of an array. -/
theorem Spells.exists_front {node : Node} {text : List Char} (h : Spells node text) :
    ∃ c s, text = c :: s ∧ isSpace c = false ∧ c ≠ ']' := by
  cases h with
  | null => exact ⟨_, _, rfl, by decide⟩
  | @bool b => cases b <;> exact ⟨_, _, rfl, by decide⟩
  | number h =>
    obtain @⟨negative, whole, _, _, _, _, hwhole, _, _⟩ := h
    cases negative with
    | true => exact ⟨_, _, rfl, by decide⟩
    | false =>
      obtain ⟨d, digits, rfl⟩ := List.exists_cons_of_ne_nil hwhole.1.1
      have hd := hwhole.1.2 d List.mem_cons_self
      exact ⟨d, _, rfl, isSpace_of_isDigit hd, ne_of_isDigit hd rfl⟩
  | text => exact ⟨_, _, rfl, by decide⟩
  | _ => exact ⟨_, _, rfl, by decide⟩

theorem Spells.length_pos {node : Node} {text : List Char} (h : Spells node text) :
    0 < text.length := by
  obtain ⟨c, s, rfl, -⟩ := h.exists_front
  exact Nat.succ_pos s.length

theorem SpellsItems.exists_front {items : List Node} {text : List Char}
    (h : SpellsItems items text) : ∃ c s, text = c :: s ∧ isSpace c = false ∧ c ≠ ']' := by
  cases h with
  | last h =>
    obtain ⟨c, s, rfl, hc⟩ := h.exists_front
    exact ⟨c, _, rfl, hc⟩
  | next h =>
    obtain ⟨c, s, rfl, hc⟩ := h.exists_front
    exact ⟨c, _, rfl, hc⟩

theorem SpellsFields.exists_front {fields : List (Passage × Node)} {text : List Char}
    (h : SpellsFields fields text) : ∃ s, text = '"' :: s := by
  cases h <;> exact ⟨_, rfl⟩

theorem Spells.readValue_blanks {node : Node} {text blanks : List Char} (h : Spells node text)
    (hblanks : IsBlanks blanks) (fuel : Nat) (rest : List Char) :
    readValue (fuel + 1) (blanks ++ (text ++ rest)) = readValue (fuel + 1) (text ++ rest) := by
  obtain ⟨c, s, rfl, hc, -⟩ := h.exists_front
  exact readValue_append_cons hblanks hc fuel (s ++ rest)

-- Two units of fuel for each character are enough: a value takes one, an item or a field another,
-- and each item or field behind the first has a comma before it.
mutual

/-- A value is read from whatever way it is written. -/
theorem readValue_of_spells {node : Node} {text : List Char} : Spells node text →
    ∀ (fuel : Nat) (rest : List Char), 2 * text.length ≤ fuel + 1 → EndsValue rest →
      readValue (fuel + 1) (text ++ rest) = (node, rest)
  | .null, fuel, rest, _, _ => readValue_null fuel rest
  | .bool, fuel, rest, _, _ => readValue_bool _ fuel rest
  | .number h, fuel, rest, _, hrest => readValue_number h hrest fuel
  | .text h, fuel, rest, _, _ => by
    rw [List.cons_append, List.append_assoc, List.singleton_append]
    exact readValue_text h fuel rest
  | .noItems hblanks, fuel, rest, _, _ => by
    rw [List.cons_append, List.append_assoc, List.singleton_append, readValue_bracket,
      skipSpace_append_cons hblanks (by decide)]
    rfl
  | .array hblanks hitems, fuel, rest, hfuel, _ => by
    rw [List.length_cons, List.length_append, List.length_append] at hfuel
    obtain ⟨fuel, rfl⟩ := Nat.exists_eq_add_of_lt (show 0 < fuel by omega)
    have hread := readItems_of_spells hitems (0 + fuel) [] rest (by omega) isBlanks_nil
    obtain ⟨c, s, rfl, hc, hend⟩ := hitems.exists_front
    rw [List.cons_append, List.append_assoc, List.append_assoc, List.singleton_append,
      readValue_bracket, List.cons_append, skipSpace_append_cons hblanks hc]
    exact readArray_items hend hread
  | .noFields hblanks, fuel, rest, _, _ => by
    rw [List.cons_append, List.append_assoc, List.singleton_append, readValue_brace,
      skipSpace_append_cons hblanks (by decide)]
    rfl
  | .object hblanks hfields, fuel, rest, hfuel, _ => by
    rw [List.length_cons, List.length_append, List.length_append] at hfuel
    obtain ⟨fuel, rfl⟩ := Nat.exists_eq_add_of_lt (show 0 < fuel by omega)
    have hread := readFields_of_spells hfields (0 + fuel) [] rest (by omega) isBlanks_nil
    obtain ⟨s, rfl⟩ := hfields.exists_front
    rw [List.cons_append, List.append_assoc, List.append_assoc, List.singleton_append,
      readValue_brace, List.cons_append, skipSpace_append_cons hblanks (by decide)]
    exact congrArg (fun read => ((.object read.1 read.2.1, read.2.2) : Step)) hread

/-- The items of an array are read from whatever way they are written. -/
theorem readItems_of_spells {items : List Node} {text : List Char} : SpellsItems items text →
    ∀ (fuel : Nat) (blanks rest : List Char), 2 * text.length ≤ fuel → IsBlanks blanks →
      readItems (fuel + 1) (blanks ++ (text ++ ']' :: rest)) = (items, none, rest)
  | .last h hbehind, fuel, blanks, rest, hfuel, hblanks => by
    have hpos := h.length_pos
    rw [List.length_append] at hfuel
    obtain ⟨fuel, rfl⟩ := Nat.exists_eq_add_of_lt (show 0 < fuel by omega)
    have hread := readValue_of_spells h (0 + fuel) _ (by omega)
      (endsValue_append_cons hbehind ']' (by decide) rest)
    rw [List.append_assoc]
    exact readItems_last ((h.readValue_blanks hblanks _ _).trans hread) h.isClosed
      (skipSpace_append_cons hbehind (by decide) rest)
  | .next h hbehind hafter hitems, fuel, blanks, rest, hfuel, hblanks => by
    rw [List.length_append, List.length_append, List.length_cons, List.length_append] at hfuel
    obtain ⟨fuel, rfl⟩ := Nat.exists_eq_add_of_lt (show 0 < fuel by omega)
    have hread := fun s => readValue_of_spells h (0 + fuel) _ (by omega)
      (endsValue_append_cons hbehind ',' (by decide) s)
    have hmore := readItems_of_spells hitems (0 + fuel) _ rest (by omega) hafter
    simp only [List.append_assoc, List.cons_append]
    exact readItems_next ((h.readValue_blanks hblanks _ _).trans (hread _)) h.isClosed
      (skipSpace_append_cons hbehind (by decide) _) hmore

/-- The fields of an object are read from whatever way they are written. -/
theorem readFields_of_spells {fields : List (Passage × Node)} {text : List Char} :
    SpellsFields fields text →
    ∀ (fuel : Nat) (blanks rest : List Char), 2 * text.length ≤ fuel → IsBlanks blanks →
      readFields (fuel + 1) (blanks ++ (text ++ '\x7d' :: rest)) = (fields, none, rest)
  | .last hname hbefore hafter h hbehind, fuel, blanks, rest, hfuel, hblanks => by
    rw [List.length_append, length_fieldText] at hfuel
    obtain ⟨fuel, rfl⟩ := Nat.exists_eq_add_of_lt (show 0 < fuel by omega)
    have hread := readValue_of_spells h (0 + fuel) _ (by omega)
      (endsValue_append_cons hbehind '\x7d' (by decide) rest)
    rw [List.append_assoc]
    exact readFields_last hname hbefore ((h.readValue_blanks hafter _ _).trans hread) h.isClosed
      hblanks (skipSpace_append_cons hbehind (by decide) rest)
  | .next hname hbefore hafter h hbehind hnext hfields, fuel, blanks, rest, hfuel, hblanks => by
    rw [List.length_append, length_fieldText, List.length_append, List.length_cons,
      List.length_append] at hfuel
    obtain ⟨fuel, rfl⟩ := Nat.exists_eq_add_of_lt (show 0 < fuel by omega)
    have hread := fun s => readValue_of_spells h (0 + fuel) _ (by omega)
      (endsValue_append_cons hbehind ',' (by decide) s)
    have hmore := readFields_of_spells hfields (0 + fuel) _ rest (by omega) hnext
    rw [List.append_assoc, List.append_assoc, List.cons_append, List.append_assoc]
    exact readFields_next hname hbefore ((h.readValue_blanks hafter _ _).trans (hread _)) h.isClosed
      hblanks (skipSpace_append_cons hbehind (by decide) _) hmore

end

theorem endsValue_of_isBlanks {blanks : List Char} (h : IsBlanks blanks) : EndsValue blanks :=
  fun _ hc => .inl (h _ (List.mem_of_mem_head? hc))

/-- **A document is read from whatever way it is written.** -/
theorem IsSpelled.ofText_eq {document : String} {node : Node} (h : IsSpelled document node) :
    Document.ofText document = ⟨node, false⟩ := by
  obtain ⟨before, text, after, hbefore, htext, hafter, hdocument⟩ := h
  have hread := readValue_of_spells htext (2 * document.toList.length + 1) after
    (by rw [hdocument, List.length_append, List.length_append]; omega)
    (endsValue_of_isBlanks hafter)
  have hrest : skipSpace after = [] := by
    have hall := skipSpace_append hafter []
    rwa [List.append_nil] at hall
  unfold Document.ofText
  dsimp only
  rw [hdocument] at hread ⊢
  rw [htext.readValue_blanks hbefore, hread, hrest]
  simp

end VideoPosters.Json
