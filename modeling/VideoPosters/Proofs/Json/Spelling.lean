import VideoPosters.Json.Document
import VideoPosters.Decimal.Shortest

/-!
# How texts and numbers are written

The grammar of texts and of numbers in a document, and what their readers make of what it
derives.  A character may be written as itself or as one of several escapes.  An escape by a code
may stand for half of a character only.  A text with such a half is not one of characters, but it
can be skipped.

## Main definitions

* `SpellsChar`, `SpellsChars` — the ways to write a character, the characters of a text.
* `IsBody` — whatever may stand between two quotation marks.
* `SpellsPassage` — how a passage is written.
* `SpellsNumeral` — how a number is written.

## Main results

* `skipText_of_isBody` — what may stand between quotation marks can be skipped.
* `readText_of_spells` — **a text is read from whatever way it is written.**
* `readNumber_of_spells` — **so is a number.**
-/

namespace VideoPosters.Json

/-! ### Characters -/

/-- Whether a character is the hexadecimal digit of a value. -/
def IsHexDigit (value : Nat) (c : Char) : Prop :=
  value < 16 ∧ (c = value.digitChar ∨ c = value.digitChar.toUpper)

/-- Whether a text is the four hexadecimal digits of a code. -/
def IsUnit (code : Nat) (text : List Char) : Prop :=
  ∃ a b c d i j k l, text = [a, b, c, d] ∧ IsHexDigit i a ∧ IsHexDigit j b ∧ IsHexDigit k c ∧
    IsHexDigit l d ∧ code = i * 0x1000 + j * 0x100 + k * 0x10 + l

/-- The letters behind a backslash and the characters that they stand for. -/
def escapes : List (Char × Char) :=
  [('"', '"'), ('\\', '\\'), ('/', '/'), ('b', '\x08'), ('f', '\x0c'), ('n', '\n'), ('r', '\r'),
    ('t', '\t')]

/-- Whether a character may stand for itself in a text. -/
def IsPlainChar (c : Char) : Prop := c ≠ '"' ∧ c ≠ '\\' ∧ 0x20 ≤ c.toNat

/-- Whether a code is that of the first half of a character. -/
def IsHigh (code : Nat) : Prop := 0xD800 ≤ code ∧ code ≤ 0xDBFF

/-- Whether a code is that of the second half of a character. -/
def IsLow (code : Nat) : Prop := 0xDC00 ≤ code ∧ code ≤ 0xDFFF

/-- The character of two halves. -/
def joinHalves (high low : Nat) : Char :=
  Char.ofNat (0x10000 + (high - 0xD800) * 0x400 + (low - 0xDC00))

/-- The ways to write a character of a text. -/
inductive SpellsChar : Char → List Char → Prop where
  | itself {c : Char} (hc : IsPlainChar c) : SpellsChar c [c]
  | escape {e c : Char} (h : (e, c) ∈ escapes) : SpellsChar c ['\\', e]
  | code {n : Nat} {hex : List Char} (hhex : IsUnit n hex) (hhigh : ¬ IsHigh n) (hlow : ¬ IsLow n) :
    SpellsChar (Char.ofNat n) ('\\' :: 'u' :: hex)
  | halves {m n : Nat} {hex hex' : List Char} (hhex : IsUnit m hex) (hhex' : IsUnit n hex')
      (hhigh : IsHigh m) (hlow : IsLow n) :
    SpellsChar (joinHalves m n) ('\\' :: 'u' :: (hex ++ '\\' :: 'u' :: hex'))

/-- The ways to write the characters of a text. -/
inductive SpellsChars : List Char → List Char → Prop where
  | nil : SpellsChars [] []
  | cons {c : Char} {s piece body : List Char} (hpiece : SpellsChar c piece)
      (hbody : SpellsChars s body) : SpellsChars (c :: s) (piece ++ body)

/-- Whatever may stand between two quotation marks. -/
inductive IsBody : List Char → Prop where
  | nil : IsBody []
  | itself {c : Char} {body : List Char} (hc : IsPlainChar c) (hbody : IsBody body) :
    IsBody (c :: body)
  | escape {e c : Char} {body : List Char} (h : (e, c) ∈ escapes) (hbody : IsBody body) :
    IsBody ('\\' :: e :: body)
  | code {n : Nat} {hex body : List Char} (hhex : IsUnit n hex) (hbody : IsBody body) :
    IsBody ('\\' :: 'u' :: (hex ++ body))

/-- How a passage is written between its quotation marks.  What cannot be written with whole
characters has a half of a character somewhere. -/
inductive SpellsPassage : Passage → List Char → Prop where
  | plain {s : String} {body : List Char} (h : SpellsChars s.toList body) :
    SpellsPassage (.plain s) body
  | unpaired {body : List Char} (h : IsBody body) (hnone : ∀ s, ¬ SpellsChars s body) :
    SpellsPassage (.unpaired none) body

instance (c : Char) : Decidable (IsPlainChar c) :=
  inferInstanceAs (Decidable (c ≠ '"' ∧ c ≠ '\\' ∧ 0x20 ≤ c.toNat))

/-- Characters may stand for themselves, all of them. -/
theorem spellsChars_self {s : List Char} (h : ∀ c ∈ s, IsPlainChar c) : SpellsChars s s := by
  induction s with
  | nil => exact .nil
  | cons c s ih =>
    exact .cons (.itself (h c List.mem_cons_self)) (ih fun d hd => h d (List.mem_cons_of_mem c hd))

theorem hexValue?_of_isHexDigit {value : Nat} {c : Char} (h : IsHexDigit value c) :
    hexValue? c = some value := by
  have hall : ∀ v < 16, hexValue? (Nat.digitChar v) = some v ∧
      hexValue? (Nat.digitChar v).toUpper = some v := by decide
  obtain ⟨hlt, rfl | rfl⟩ := h
  · exact (hall value hlt).1
  · exact (hall value hlt).2

theorem simpleEscape?_of_mem {e c : Char} (h : (e, c) ∈ escapes) :
    simpleEscape? e = some c ∧ e ≠ 'u' := by
  have hall : ∀ pair ∈ escapes, simpleEscape? pair.1 = some pair.2 ∧ pair.1 ≠ 'u' := by decide
  exact hall (e, c) h

theorem readUnit_of_isUnit {code : Nat} {hex : List Char} (h : IsUnit code hex)
    (rest : List Char) : readUnit (hex ++ rest) = .ok (code, rest) := by
  obtain ⟨a, b, c, d, i, j, k, l, rfl, ha, hb, hc, hd, rfl⟩ := h
  simp [readUnit, hexValue?_of_isHexDigit ha, hexValue?_of_isHexDigit hb,
    hexValue?_of_isHexDigit hc, hexValue?_of_isHexDigit hd]

/-! ### Escapes by a code -/

section

variable {m n : Nat} {hex hex' rest : List Char}

theorem readEscape_code (hhex : IsUnit n hex) (hhigh : ¬ IsHigh n) (hlow : ¬ IsLow n) :
    readEscape (hex ++ rest) = .char (Char.ofNat n) rest := by
  unfold IsHigh at hhigh
  unfold IsLow at hlow
  rw [readEscape, readUnit_of_isUnit hhex]
  dsimp only
  rw [if_neg (by simpa using hlow), if_neg (by simpa using hhigh)]

theorem readEscape_low (hhex : IsUnit n hex) (hlow : IsLow n) :
    readEscape (hex ++ rest) = .unpaired rest := by
  unfold IsLow at hlow
  rw [readEscape, readUnit_of_isUnit hhex]
  dsimp only
  rw [if_pos (by simpa using hlow)]

theorem readEscape_halves (hhex : IsUnit m hex) (hhex' : IsUnit n hex') (hhigh : IsHigh m)
    (hlow : IsLow n) : readEscape (hex ++ '\\' :: 'u' :: (hex' ++ rest)) =
      .char (joinHalves m n) rest := by
  unfold IsHigh at hhigh
  unfold IsLow at hlow
  -- no code is both halves at once
  have hnot : ¬ (0xDC00 ≤ m ∧ m ≤ 0xDFFF) := by omega
  rw [readEscape, readUnit_of_isUnit hhex]
  dsimp only
  rw [if_neg (by simpa using hnot), if_pos (by simpa using hhigh)]
  simp only [readUnit_of_isUnit hhex']
  rw [if_pos (by simpa using hlow), joinHalves]

/-- The first half of a character without the second behind it. -/
theorem readEscape_high (hhex : IsUnit m hex) (hhigh : IsHigh m) {body : List Char}
    (hbody : IsBody body) (hnone : ¬ ∃ n hex' body', body = '\\' :: 'u' :: (hex' ++ body') ∧
      IsUnit n hex' ∧ IsLow n ∧ IsBody body') :
    readEscape (hex ++ (body ++ '"' :: rest)) = .unpaired (body ++ '"' :: rest) := by
  have hnot : ¬ (0xDC00 ≤ m ∧ m ≤ 0xDFFF) := by
    unfold IsHigh at hhigh
    omega
  unfold IsHigh at hhigh
  rw [readEscape, readUnit_of_isUnit hhex]
  dsimp only
  rw [if_neg (by simpa using hnot), if_pos (by simpa using hhigh)]
  cases hbody with
  | nil => rfl
  | itself hc hbody =>
    -- whatever stands behind the half, it is not the escape of a second one
    split
    · next h => cases h
    · next h => exact absurd (List.cons.inj h).1 hc.2.1
    · next h => exact absurd (List.cons.inj h).1 hc.2.1
    · rfl
  | escape h hbody =>
    split
    · next h => cases h
    · next h => cases (List.cons.inj h).2
    · next hu => exact absurd (List.cons.inj (List.cons.inj hu).2).1 (simpleEscape?_of_mem h).2
    · rfl
  | @code n hex' body hhex' hbody =>
    have hlow : ¬ IsLow n := fun hlow => hnone ⟨n, hex', body, rfl, hhex', hlow, hbody⟩
    unfold IsLow at hlow
    simp only [List.cons_append, List.append_assoc, readUnit_of_isUnit hhex']
    rw [if_neg (by simpa using hlow)]

end

/-! ### Texts -/

section

variable {fuel : Nat} {done s piece body rest : List Char} {c : Char}

theorem IsPlainChar.not_control (hc : IsPlainChar c) : ¬ c.toNat < 0x20 := by
  have := hc.2.2
  omega

theorem SpellsChar.ne_nil (h : SpellsChar c piece) : piece ≠ [] := by
  cases h <;> exact List.cons_ne_nil _ _

/-- What may stand between two quotation marks can be skipped. -/
theorem skipText_of_isBody (h : IsBody body) (hfuel : body.length < fuel) (rest : List Char) :
    skipText fuel (body ++ '"' :: rest) = (none, rest) := by
  induction h generalizing fuel with
  | nil =>
    obtain ⟨fuel, rfl⟩ := Nat.exists_eq_add_of_lt hfuel
    rw [List.nil_append, skipText.eq_def]
    rfl
  | @itself c body hc hbody ih =>
    obtain ⟨fuel, rfl⟩ := Nat.exists_eq_add_of_lt (Nat.zero_lt_of_lt hfuel)
    rw [List.length_cons] at hfuel
    rw [List.cons_append, skipText.eq_def]
    dsimp only
    rw [if_neg hc.1, if_neg hc.not_control, if_neg hc.2.1]
    exact ih (by omega)
  | @escape e c body he hbody ih =>
    obtain ⟨fuel, rfl⟩ := Nat.exists_eq_add_of_lt (Nat.zero_lt_of_lt hfuel)
    obtain ⟨hescape, hu⟩ := simpleEscape?_of_mem he
    rw [List.length_cons, List.length_cons] at hfuel
    rw [List.cons_append, List.cons_append, skipText.eq_def]
    dsimp only
    rw [if_neg (by decide), if_neg (by decide), if_pos rfl]
    -- the letter behind the backslash is not the one of a code
    split
    · next h => cases h
    · next h => exact absurd (List.cons.inj h).1 hu
    · next h =>
      obtain ⟨rfl, rfl⟩ := List.cons.inj h
      rw [hescape]
      exact ih (by omega)
  | @code n hex body hhex hbody ih =>
    obtain ⟨fuel, rfl⟩ := Nat.exists_eq_add_of_lt (Nat.zero_lt_of_lt hfuel)
    rw [List.length_cons, List.length_cons, List.length_append] at hfuel
    rw [List.cons_append, List.cons_append, List.append_assoc, skipText.eq_def]
    dsimp only
    rw [if_neg (by decide), if_neg (by decide), if_pos rfl]
    simp only [readUnit_of_isUnit hhex]
    exact ih (by omega)

/-- What stands in place of a character is read if its escape is. -/
theorem readText_code (h : readEscape rest = .char c s) :
    readText (fuel + 1) done ('\\' :: 'u' :: rest) = readText fuel (c :: done) s := by
  rw [readText.eq_def]
  dsimp only
  rw [if_neg (by decide), if_neg (by decide), if_pos rfl]
  simp only [h]

/-- A character is read from whatever way it is written. -/
theorem readText_piece (h : SpellsChar c piece) (rest : List Char) :
    readText (fuel + 1) done (piece ++ rest) = readText fuel (c :: done) rest := by
  cases h with
  | itself hc =>
    rw [List.singleton_append, readText.eq_def]
    dsimp only
    rw [if_neg hc.1, if_neg hc.not_control, if_neg hc.2.1]
  | @escape e _ he =>
    obtain ⟨hescape, hu⟩ := simpleEscape?_of_mem he
    rw [List.cons_append, List.singleton_append, readText.eq_def]
    dsimp only
    rw [if_neg (by decide), if_neg (by decide), if_pos rfl]
    -- the letter behind the backslash is not the one of a code
    split
    · next h => cases h
    · next h => exact absurd (List.cons.inj h).1 hu
    · next h =>
      obtain ⟨rfl, rfl⟩ := List.cons.inj h
      rw [hescape]
  | code hhex hhigh hlow => exact readText_code (readEscape_code hhex hhigh hlow)
  | halves hhex hhex' hhigh hlow =>
    rw [List.cons_append, List.cons_append, List.append_assoc]
    exact readText_code (readEscape_halves hhex hhex' hhigh hlow)

theorem readText_quote (rest : List Char) :
    readText (fuel + 1) done ('"' :: rest) = (.plain (String.ofList done.reverse), rest) := by
  rw [readText.eq_def]
  rfl

/-- A text of characters is read from whatever way it is written. -/
theorem readText_of_spellsChars (h : SpellsChars s body) (hfuel : body.length < fuel)
    (rest : List Char) :
    readText fuel done (body ++ '"' :: rest) =
      (.plain (String.ofList (done.reverse ++ s)), rest) := by
  induction h generalizing fuel done with
  | nil =>
    obtain ⟨fuel, rfl⟩ := Nat.exists_eq_add_of_lt hfuel
    rw [List.nil_append, List.append_nil]
    exact readText_quote rest
  | @cons c s piece body hpiece hbody ih =>
    obtain ⟨fuel, rfl⟩ := Nat.exists_eq_add_of_lt (Nat.zero_lt_of_lt hfuel)
    have hlength := List.length_pos_iff.2 hpiece.ne_nil
    rw [List.length_append] at hfuel
    rw [List.append_assoc, readText_piece hpiece, ih (by omega), List.reverse_cons,
      List.append_assoc, List.singleton_append]

/-- What may stand between two quotation marks ends, or starts with a character, or with a half
of a character without the other. -/
theorem IsBody.cases_front (h : IsBody body) : body = [] ∨
    (∃ c piece behind, SpellsChar c piece ∧ IsBody behind ∧ body = piece ++ behind) ∨
    ∃ hex behind, IsBody behind ∧ body = '\\' :: 'u' :: (hex ++ behind) ∧
      ∀ rest, readEscape (hex ++ (behind ++ '"' :: rest)) = .unpaired (behind ++ '"' :: rest) := by
  cases h with
  | nil => exact .inl rfl
  | itself hc hbody => exact .inr (.inl ⟨_, _, _, .itself hc, hbody, rfl⟩)
  | escape he hbody => exact .inr (.inl ⟨_, _, _, .escape he, hbody, rfl⟩)
  | @code n hex body hhex hbody =>
    -- a code is a character of its own unless it is half of one
    by_cases hlow : IsLow n
    · exact .inr (.inr ⟨hex, body, hbody, rfl, fun rest => readEscape_low hhex hlow⟩)
    by_cases hhigh : IsHigh n
    · -- the second half may be the next piece
      by_cases hpair : ∃ m hex' body', body = '\\' :: 'u' :: (hex' ++ body') ∧ IsUnit m hex' ∧
          IsLow m ∧ IsBody body'
      · obtain ⟨m, hex', body', rfl, hhex', hlow', hbody'⟩ := hpair
        refine .inr (.inl ⟨_, _, body', .halves hhex hhex' hhigh hlow', hbody', ?_⟩)
        simp
      · exact .inr (.inr ⟨hex, body, hbody, rfl, fun rest =>
          readEscape_high hhex hhigh hbody hpair⟩)
    · exact .inr (.inl ⟨_, _, _, .code hhex hhigh hlow, hbody, rfl⟩)

/-- What may stand between two quotation marks is a text of characters that is written so, or it
has a half of a character without the other. -/
theorem readText_of_isBody (h : IsBody body) (hfuel : body.length < fuel) (rest : List Char) :
    (∃ s, SpellsChars s body) ∨
      readText fuel done (body ++ '"' :: rest) = (.unpaired none, rest) := by
  -- by induction on what is left: it may go on with two pieces at once
  induction hlength : body.length using Nat.strongRecOn generalizing body fuel done with
  | ind n ih =>
    obtain ⟨fuel, rfl⟩ := Nat.exists_eq_add_of_lt (Nat.zero_lt_of_lt hfuel)
    rcases h.cases_front with rfl | ⟨c, piece, behind, hpiece, hbehind, rfl⟩ |
      ⟨hex, behind, hbehind, rfl, hescape⟩
    · exact .inl ⟨[], .nil⟩
    · have hpos := List.length_pos_iff.2 hpiece.ne_nil
      rw [List.length_append] at hlength hfuel
      rw [List.append_assoc, readText_piece hpiece]
      exact (ih behind.length (by omega) hbehind (by omega) rfl).imp
        (fun ⟨s, hs⟩ => ⟨c :: s, .cons hpiece hs⟩) id
    · -- behind a half without the other the text is only skipped
      right
      rw [List.length_cons, List.length_cons, List.length_append] at hfuel
      rw [List.cons_append, List.cons_append, List.append_assoc, readText.eq_def]
      dsimp only
      rw [if_neg (by decide), if_neg (by decide), if_pos rfl]
      simp only [hescape]
      rw [skipText_of_isBody hbehind (by omega)]

/-- **A passage is read from whatever way it is written.** -/
theorem readText_of_spells {p : Passage} (h : SpellsPassage p body) (rest : List Char) :
    readText ((body ++ '"' :: rest).length + 1) [] (body ++ '"' :: rest) = (p, rest) := by
  have hfuel : body.length < (body ++ '"' :: rest).length + 1 := by
    rw [List.length_append]
    omega
  cases h with
  | plain hchars =>
    rw [readText_of_spellsChars hchars hfuel, List.reverse_nil, List.nil_append,
      String.ofList_toList]
  | unpaired hbody hnone =>
    exact (readText_of_isBody hbody hfuel rest).resolve_left fun ⟨s, hs⟩ => hnone s hs

/-- A passage as it is written can be skipped. -/
theorem SpellsPassage.skip_eq_none {p : Passage} (h : SpellsPassage p body) : p.skip = none := by
  cases h <;> rfl

end

/-! ### Numbers -/

/-- Whether a text is of digits, of one at least. -/
def IsDigits (digits : List Char) : Prop := digits ≠ [] ∧ ∀ c ∈ digits, c.isDigit = true

/-- Whether a text is of digits without a zero in front, unless it is `0`. -/
def IsWhole (digits : List Char) : Prop :=
  IsDigits digits ∧ (digits.head? = some '0' → digits = ['0'])

instance (digits : List Char) : Decidable (IsDigits digits) :=
  decidable_of_iff (digits ≠ [] ∧ digits.all Char.isDigit = true)
    (by rw [IsDigits, List.all_eq_true])

instance (digits : List Char) : Decidable (IsWhole digits) :=
  inferInstanceAs (Decidable (IsDigits digits ∧ (digits.head? = some '0' → digits = ['0'])))

/-- How what is behind the point is written, with the point. -/
inductive SpellsFraction : Option (List Char) → List Char → Prop where
  | absent : SpellsFraction none []
  | present {digits : List Char} (h : IsDigits digits) :
    SpellsFraction (some digits) ('.' :: digits)

/-- How an exponent is written, with its letter. -/
inductive SpellsExponent : Option (Bool × List Char) → List Char → Prop where
  | absent : SpellsExponent none []
  | present {letter : Char} {minus : Bool} {sign digits : List Char}
      (hletter : letter = 'e' ∨ letter = 'E')
      (hsign : (minus, sign) ∈ [(false, []), (false, ['+']), (true, ['-'])])
      (h : IsDigits digits) : SpellsExponent (some (minus, digits)) (letter :: (sign ++ digits))

/-- How a number is written. -/
inductive SpellsNumeral : Numeral → List Char → Prop where
  | mk {negative : Bool} {whole fractionText exponentText : List Char}
      {fraction : Option (List Char)} {exponent : Option (Bool × List Char)}
      (hwhole : IsWhole whole) (hfraction : SpellsFraction fraction fractionText)
      (hexponent : SpellsExponent exponent exponentText) :
    SpellsNumeral ⟨negative, whole, fraction, exponent⟩
      ((if negative then ['-'] else []) ++ (whole ++ (fractionText ++ exponentText)))

/-- Whether a text may stand behind a value: nothing, or a blank or a mark in front. -/
def EndsValue (rest : List Char) : Prop :=
  ∀ c, rest.head? = some c → isSpace c = true ∨ c ∈ [',', ']', '\x7d']

section

variable {digits rest : List Char}

theorem IsDigits.takeWhile_append (h : IsDigits digits)
    (hrest : ∀ c, rest.head? = some c → c.isDigit = false) :
    (digits ++ rest).takeWhile Char.isDigit = digits ∧
      (digits ++ rest).dropWhile Char.isDigit = rest := by
  rw [List.takeWhile_append_of_pos h.2, List.dropWhile_append_of_pos h.2]
  cases rest with
  | nil => simp
  | cons c rest => simp [hrest c rfl]

theorem EndsValue.head_ne (h : EndsValue rest) {c : Char} (hc : rest.head? = some c) :
    c.isDigit = false ∧ c ≠ '.' ∧ c ≠ 'e' ∧ c ≠ 'E' := by
  have := h c hc
  unfold isSpace at this
  simp only [Bool.or_eq_true, decide_eq_true_iff, List.mem_cons, List.not_mem_nil] at this
  rcases this with (((rfl | rfl) | rfl) | rfl) | rfl | rfl | rfl | h
  all_goals first | decide | cases h

theorem readExponent_of_spells {exponent : Option (Bool × List Char)} {text : List Char}
    (h : SpellsExponent exponent text) (hrest : EndsValue rest) (negative : Bool)
    (whole : List Char) (fraction : Option (List Char)) :
    readExponent negative whole fraction (text ++ rest) =
      (.number ⟨negative, whole, fraction, exponent⟩, rest) := by
  cases h with
  | absent =>
    cases rest with
    | nil => rfl
    | cons c rest =>
      obtain ⟨-, -, he, hE⟩ := hrest.head_ne rfl
      -- what ends a value starts no exponent
      rw [List.nil_append, readExponent.eq_def]
      dsimp only
      rw [if_neg (by simp [he, hE])]
  | @present letter minus sign digits hletter hsign hdigits =>
    obtain ⟨htake, hdrop⟩ := hdigits.takeWhile_append fun c hc => (hrest.head_ne hc).1
    have hempty : ¬ digits.isEmpty = true := by
      rw [List.isEmpty_iff]
      exact hdigits.1
    have hread : ∀ minus, (if digits.isEmpty = true then brokenNumber (digits ++ rest) else
        (.number ⟨negative, whole, fraction, some (minus, digits)⟩, rest)) =
          ((.number ⟨negative, whole, fraction, some (minus, digits)⟩, rest) : Step) :=
      fun minus => if_neg hempty
    rw [List.cons_append, List.append_assoc, readExponent.eq_def]
    dsimp only
    rw [if_pos (by simpa using hletter)]
    rcases List.mem_cons.1 hsign with h | hsign
    · obtain ⟨rfl, rfl⟩ := Prod.mk.inj h
      rw [List.nil_append]
      -- a digit is no sign
      obtain ⟨d, digits, rfl⟩ := List.exists_cons_of_ne_nil hdigits.1
      have hd := hdigits.2 d List.mem_cons_self
      split
      · next heq =>
        rw [(List.cons.inj heq).1] at hd
        cases hd
      · next heq =>
        rw [(List.cons.inj heq).1] at hd
        cases hd
      · simp only [htake, hdrop, hread]
    · rcases List.mem_cons.1 hsign with h | hsign
      · obtain ⟨rfl, rfl⟩ := Prod.mk.inj h
        simp only [List.singleton_append, htake, hdrop, hread]
      · obtain ⟨rfl, rfl⟩ := Prod.mk.inj (List.mem_singleton.1 hsign)
        simp only [List.singleton_append, htake, hdrop, hread]

theorem SpellsExponent.head_ne {exponent : Option (Bool × List Char)} {text : List Char}
    (h : SpellsExponent exponent text) (hrest : EndsValue rest) {c : Char}
    (hc : (text ++ rest).head? = some c) : c.isDigit = false ∧ c ≠ '.' := by
  cases h with
  | absent =>
    obtain ⟨hdigit, hpoint, -⟩ := hrest.head_ne hc
    exact ⟨hdigit, hpoint⟩
  | present hletter =>
    obtain rfl := Option.some.inj hc
    rcases hletter with rfl | rfl <;> decide

theorem readFraction_of_spells {fraction : Option (List Char)}
    {exponent : Option (Bool × List Char)} {text text' : List Char}
    (h : SpellsFraction fraction text) (h' : SpellsExponent exponent text')
    (hrest : EndsValue rest) (negative : Bool) (whole : List Char) :
    readFraction negative whole (text ++ (text' ++ rest)) =
      (.number ⟨negative, whole, fraction, exponent⟩, rest) := by
  cases h with
  | absent =>
    rw [List.nil_append, readFraction.eq_def]
    split
    · next heq => exact absurd rfl (h'.head_ne hrest (by rw [heq]; rfl)).2
    · exact readExponent_of_spells h' hrest negative whole none
  | present hdigits =>
    obtain ⟨htake, hdrop⟩ := hdigits.takeWhile_append fun c hc => (h'.head_ne hrest hc).1
    rw [List.cons_append, readFraction.eq_def]
    simp only [htake, hdrop]
    rw [if_neg (by rw [List.isEmpty_iff]; exact hdigits.1)]
    exact readExponent_of_spells h' hrest negative whole _

theorem SpellsFraction.head_isDigit {fraction : Option (List Char)}
    {exponent : Option (Bool × List Char)} {text text' : List Char}
    (h : SpellsFraction fraction text) (h' : SpellsExponent exponent text')
    (hrest : EndsValue rest) {c : Char} (hc : (text ++ (text' ++ rest)).head? = some c) :
    c.isDigit = false := by
  cases h with
  | absent => exact (h'.head_ne hrest hc).1
  | present =>
    obtain rfl := Option.some.inj hc
    rfl

/-- **A number is read from whatever way it is written**, behind its sign. -/
theorem readNumber_of_spells {whole text text' : List Char} {fraction : Option (List Char)}
    {exponent : Option (Bool × List Char)} (hwhole : IsWhole whole)
    (h : SpellsFraction fraction text) (h' : SpellsExponent exponent text')
    (hrest : EndsValue rest) (negative : Bool) :
    readNumber negative (whole ++ (text ++ (text' ++ rest))) =
      (.number ⟨negative, whole, fraction, exponent⟩, rest) := by
  obtain ⟨hdigits, hzero⟩ := hwhole
  have hbehind : ∀ c, (text ++ (text' ++ rest)).head? = some c → c.isDigit = false :=
    fun c hc => h.head_isDigit h' hrest hc
  obtain ⟨htake, hdrop⟩ := hdigits.takeWhile_append hbehind
  rw [readNumber.eq_def]
  split
  · next s' heq =>
    have hhead : whole.head? = some '0' := by
      obtain ⟨d, whole, rfl⟩ := List.exists_cons_of_ne_nil hdigits.1
      exact congrArg some (List.cons.inj heq).1
    rw [hzero hhead, List.singleton_append, List.cons.injEq] at heq
    obtain ⟨-, rfl⟩ := heq
    rw [if_neg, hzero hhead]
    · exact readFraction_of_spells h h' hrest negative ['0']
    · cases hc : (text ++ (text' ++ rest)).head? with
      | none => exact Bool.false_ne_true
      | some c => simp [hbehind c hc]
  · simp only [htake, hdrop]
    rw [if_neg (by rw [List.isEmpty_iff]; exact hdigits.1)]
    exact readFraction_of_spells h h' hrest negative whole

end

end VideoPosters.Json
