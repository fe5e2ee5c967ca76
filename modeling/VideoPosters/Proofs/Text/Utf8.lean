import VideoPosters.Text.Utf8

/-!
# Reading octets back

A character takes one to four octets.  The first of them tells how many there are, and
where the number of the character is close to the end of what so many octets can hold, the
bounds on the second one tell it from the numbers that no character has.

## Main results

* `decodeStep_encodeChar` — the octets of a character are read as that character,
  whatever follows them.
* `decodeLossy_encode` — **reading undoes writing.**
-/

namespace VideoPosters.Text.Utf8

/-! ### The numbers of characters -/

/-- The numbers of characters leave out the surrogates. -/
theorem toNat_lt_or_lt (c : Char) :
    c.toNat < 0xD800 ∨ (0xDFFF < c.toNat ∧ c.toNat < 0x110000) := c.valid

theorem toNat_lt (c : Char) : c.toNat < 0x110000 := by
  have hvalid := toNat_lt_or_lt c
  omega

/-- The octets of a text are octets. -/
theorem lt_of_mem_encode {s : List Char} {b : Nat} (h : b ∈ encode s) : b < 256 := by
  rw [encode, List.mem_flatMap] at h
  obtain ⟨c, -, hb⟩ := h
  have hlt := toNat_lt c
  simp only [encodeChar] at hb
  split at hb
  · simp only [List.mem_singleton] at hb
    omega
  · split at hb
    · simp only [List.mem_cons, List.not_mem_nil, or_false] at hb
      omega
    · split at hb
      all_goals
        simp only [List.mem_cons, List.not_mem_nil, or_false] at hb
        omega

/-! ### One character -/

/-- The number of an ASCII character is its octet. -/
theorem encodeChar_of_lt {c : Char} (h : c.toNat < 0x80) : encodeChar c = [c.toNat] := by
  simp only [encodeChar]
  rw [if_pos h]

theorem isTail_eq_true_iff {b : Nat} : isTail b = true ↔ 0x80 ≤ b ∧ b ≤ 0xBF := by
  rw [isTail, Bool.and_eq_true, decide_eq_true_eq, decide_eq_true_eq]

/-- Six bits as an octet that continues a character. -/
theorem isTail_add {k : Nat} (h : k < 0x40) : isTail (0x80 + k) = true := by
  rw [isTail_eq_true_iff]
  omega

/-- A number of up to eleven bits in two octets. -/
theorem decodeStep_two {n : Nat} (hlow : 0x80 ≤ n) (hhigh : n < 0x800) (rest : List Nat) :
    decodeStep (0xC0 + n / 0x40) ((0x80 + n % 0x40) :: rest) = .char (Char.ofNat n) rest := by
  have hfirst : 0xC2 ≤ 0xC0 + n / 0x40 ∧ 0xC0 + n / 0x40 ≤ 0xDF := by omega
  have htail : isTail (0x80 + n % 0x40) = true := isTail_add (by omega)
  have hvalue : (0xC0 + n / 0x40 - 0xC0) * 0x40 + (0x80 + n % 0x40 - 0x80) = n := by omega
  rw [decodeStep, if_neg (by omega), if_pos (by simp [hfirst]), decodeTwo, if_pos htail, hvalue]

/-- A number of up to sixteen bits that is not a surrogate in three octets. -/
theorem decodeStep_three {n : Nat} (hlow : 0x800 ≤ n) (hhigh : n < 0x10000)
    (hvalid : n < 0xD800 ∨ 0xDFFF < n) (rest : List Nat) :
    decodeStep (0xE0 + n / 0x1000) ((0x80 + n / 0x40 % 0x40) :: (0x80 + n % 0x40) :: rest) =
      .char (Char.ofNat n) rest := by
  have htail : isTail (0x80 + n % 0x40) = true := isTail_add (by omega)
  have hvalue : (0xE0 + n / 0x1000 - 0xE0) * 0x1000 + (0x80 + n / 0x40 % 0x40 - 0x80) * 0x40 +
      (0x80 + n % 0x40 - 0x80) = n := by omega
  have hthree : ∀ low high, low ≤ 0x80 + n / 0x40 % 0x40 → 0x80 + n / 0x40 % 0x40 ≤ high →
      decodeThree (0xE0 + n / 0x1000) low high
        ((0x80 + n / 0x40 % 0x40) :: (0x80 + n % 0x40) :: rest) = .char (Char.ofNat n) rest := by
    intro low high hl hh
    simp only [decodeThree, hl, hh, htail, decide_true, Bool.and_true, if_true, hvalue]
  -- the bounds on the second octet hang on the first
  rw [decodeStep, if_neg (by omega), if_neg (by simp; omega)]
  split
  · next hfirst =>
    rw [beq_iff_eq] at hfirst
    exact hthree _ _ (by omega) (by omega)
  · next hfirst =>
    rw [beq_iff_eq] at hfirst
    split
    · next hlast =>
      rw [beq_iff_eq] at hlast
      exact hthree _ _ (by omega) (by omega)
    · rw [if_pos (by simp; omega)]
      exact hthree _ _ (by omega) (by omega)

/-- A number of more than sixteen bits in four octets. -/
theorem decodeStep_four {n : Nat} (hlow : 0x10000 ≤ n) (hhigh : n < 0x110000)
    (rest : List Nat) :
    decodeStep (0xF0 + n / 0x40000)
        ((0x80 + n / 0x1000 % 0x40) :: (0x80 + n / 0x40 % 0x40) :: (0x80 + n % 0x40) :: rest) =
      .char (Char.ofNat n) rest := by
  have hthird : isTail (0x80 + n / 0x40 % 0x40) = true := isTail_add (by omega)
  have htail : isTail (0x80 + n % 0x40) = true := isTail_add (by omega)
  have hvalue : (0xF0 + n / 0x40000 - 0xF0) * 0x40000 +
      (0x80 + n / 0x1000 % 0x40 - 0x80) * 0x1000 + (0x80 + n / 0x40 % 0x40 - 0x80) * 0x40 +
      (0x80 + n % 0x40 - 0x80) = n := by omega
  have hfour : ∀ low high, low ≤ 0x80 + n / 0x1000 % 0x40 → 0x80 + n / 0x1000 % 0x40 ≤ high →
      decodeFour (0xF0 + n / 0x40000) low high
        ((0x80 + n / 0x1000 % 0x40) :: (0x80 + n / 0x40 % 0x40) :: (0x80 + n % 0x40) :: rest) =
      .char (Char.ofNat n) rest := by
    intro low high hl hh
    simp only [decodeFour, hl, hh, hthird, htail, decide_true, Bool.and_true, if_true, hvalue]
  rw [decodeStep, if_neg (by omega), if_neg (by simp; omega), if_neg (by simp; omega),
    if_neg (by simp; omega), if_neg (by simp; omega)]
  split
  · next hfirst =>
    rw [beq_iff_eq] at hfirst
    exact hfour _ _ (by omega) (by omega)
  · next hfirst =>
    rw [beq_iff_eq] at hfirst
    split
    · next hmiddle => exact hfour _ _ (by omega) (by omega)
    · next hmiddle =>
      simp only [Bool.and_eq_true, decide_eq_true_eq] at hmiddle
      rw [if_pos (by simp; omega)]
      exact hfour _ _ (by omega) (by omega)

/-- The octets of a character are read as that character, whatever follows them. -/
theorem decodeStep_encodeChar (c : Char) (rest : List Nat) :
    ∃ a tail, encodeChar c ++ rest = a :: tail ∧ decodeStep a tail = .char c rest := by
  have hvalid := toNat_lt_or_lt c
  simp only [encodeChar]
  by_cases h1 : c.toNat < 0x80
  · refine ⟨c.toNat, rest, by rw [if_pos h1]; rfl, ?_⟩
    rw [decodeStep, if_pos h1, Char.ofNat_toNat]
  by_cases h2 : c.toNat < 0x800
  · refine ⟨_, _, by rw [if_neg h1, if_pos h2]; rfl, ?_⟩
    simpa using decodeStep_two (by omega) h2 rest
  by_cases h3 : c.toNat < 0x10000
  · refine ⟨_, _, by rw [if_neg h1, if_neg h2, if_pos h3]; rfl, ?_⟩
    simpa using decodeStep_three (by omega) h3 (by omega) rest
  · refine ⟨_, _, by rw [if_neg h1, if_neg h2, if_neg h3]; rfl, ?_⟩
    simpa using decodeStep_four (by omega) (toNat_lt c) rest

/-! ### Texts -/

@[simp] theorem encode_nil : encode [] = [] := rfl

@[simp] theorem encode_cons (c : Char) (s : List Char) :
    encode (c :: s) = encodeChar c ++ encode s := rfl

theorem encode_append (s t : List Char) : encode (s ++ t) = encode s ++ encode t :=
  List.flatMap_append

/-- A text has at least as many octets as characters. -/
theorem length_le_length_encode (s : List Char) : s.length ≤ (encode s).length := by
  induction s with
  | nil => exact Nat.le_refl 0
  | cons c s ih =>
    obtain ⟨a, tail, hoctets, -⟩ := decodeStep_encodeChar c []
    have hne : 0 < (encodeChar c).length := by
      rw [← List.append_nil (encodeChar c), hoctets]
      exact Nat.succ_pos _
    rw [encode_cons, List.length_append, List.length_cons]
    omega

/-- The octets of a text are read as that text, with enough fuel. -/
theorem decodeWith_encode (onBad : Option Char) {fuel : Nat} {s : List Char}
    (h : s.length ≤ fuel) : decodeWith onBad fuel (encode s) = some s := by
  induction s generalizing fuel with
  | nil => cases fuel <;> rfl
  | cons c s ih =>
    cases fuel with
    | zero => cases h
    | succ fuel =>
      obtain ⟨a, tail, hoctets, hstep⟩ := decodeStep_encodeChar c (encode s)
      have hrest := ih (Nat.le_of_succ_le_succ h)
      rw [encode_cons, hoctets, decodeWith, hstep]
      simp only [hrest, Option.map_some]

/-- **Reading undoes writing**; nothing is replaced. -/
theorem decodeLossy_encode (s : List Char) : decodeLossy (encode s) = s := by
  rw [decodeLossy, decodeWith_encode _ (length_le_length_encode s), Option.getD_some]

end VideoPosters.Text.Utf8
