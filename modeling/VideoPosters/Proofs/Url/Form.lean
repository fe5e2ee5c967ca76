import VideoPosters.Proofs.Text.Utf8
import VideoPosters.Url.Form

/-!
# Reading parameters back

Parameters that are appended to a query are read back as they are, whatever characters
they hold, behind those that were there before.  Two things carry this: an octet is read
back from its written form wherever that stands, and no written form holds one of the
marks `&` and `=` that keep parameters, names and values apart.

## Main results

* `decodeForm_encodeForm` — a written name or value is read back.
* `parameterOf_renderParameter` — a written parameter is read back.
* `parameters_withParameters` — **appended parameters are read back behind the others.**
-/

namespace VideoPosters.Url

open Text (splitAt hexDigitValue?)
open Text.Utf8 (encodeChar_of_lt)

/-! ### Hexadecimal digits -/

/-- A digit in upper case has its value, is ASCII, and is no mark of a query. -/
theorem upperHexDigit_spec {n : Nat} (h : n < 16) :
    hexDigitValue? (upperHexDigit n) = some n ∧ (upperHexDigit n).toNat < 0x80 ∧
      upperHexDigit n ≠ '+' ∧ upperHexDigit n ≠ '&' ∧ upperHexDigit n ≠ '=' := by
  have hall : ∀ n < 16, hexDigitValue? (upperHexDigit n) = some n ∧
      (upperHexDigit n).toNat < 0x80 ∧ upperHexDigit n ≠ '+' ∧ upperHexDigit n ≠ '&' ∧
      upperHexDigit n ≠ '=' := by decide
  exact hall n h

/-! ### ASCII -/

theorem toNat_ofNat_of_lt {n : Nat} (h : n < 0x80) : (Char.ofNat n).toNat = n := by
  have hvalid : n.isValidChar := .inl (by omega)
  rw [Char.ofNat, dif_pos hvalid]
  rfl

/-! ### Percent triplets -/

/-- An octet other than `%` stands for itself. -/
theorem percentDecodeOctets_cons_of_ne {b : Nat} (h : b ≠ 0x25) (rest : List Nat) :
    percentDecodeOctets (b :: rest) = b :: percentDecodeOctets rest := by
  rw [percentDecodeOctets]
  intro _ _ _ hb
  exact absurd hb h

/-- A triplet stands for its octet. -/
theorem percentDecodeOctets_triplet {b : Nat} (h : b < 256) (rest : List Nat) :
    percentDecodeOctets (Text.Utf8.encode (percentTriplet b) ++ rest) =
      b :: percentDecodeOctets rest := by
  obtain ⟨hhigh, hhighAscii, -⟩ := upperHexDigit_spec (n := b / 16) (by omega)
  obtain ⟨hlow, hlowAscii, -⟩ := upperHexDigit_spec (n := b % 16) (by omega)
  have hoctets : Text.Utf8.encode (percentTriplet b) =
      [0x25, (upperHexDigit (b / 16)).toNat, (upperHexDigit (b % 16)).toNat] := by
    simp [percentTriplet, encodeChar_of_lt hhighAscii, encodeChar_of_lt hlowAscii,
      encodeChar_of_lt (c := '%') (by decide)]
  have hvalue : 16 * (b / 16) + b % 16 = b := by omega
  rw [hoctets, List.cons_append, List.cons_append, List.cons_append, List.nil_append,
    percentDecodeOctets, Char.ofNat_toNat, Char.ofNat_toNat, hhigh, hlow]
  simp only [hvalue]

/-! ### Names and values -/

/-- What a character of a written name or value stands for, triplets aside. -/
def unplus (c : Char) : Char := if c = '+' then ' ' else c

/-- What a written name or value stands for, in octets. -/
def formOctets (s : List Char) : List Nat := percentDecode (s.map unplus)

theorem decodeForm_eq (s : List Char) : decodeForm s = Text.Utf8.decodeLossy (formOctets s) := rfl

/-- A written octet is a plus for a space, a character that needs no triplet, or a
triplet. -/
theorem encodeFormOctet_cases (b : Nat) :
    (b = 0x20 ∧ encodeFormOctet b = ['+']) ∨
    (∃ c : Char, c.toNat = b ∧ b < 0x80 ∧ c ≠ '+' ∧ c ≠ '%' ∧ c ≠ '&' ∧ c ≠ '=' ∧
      encodeFormOctet b = [c]) ∨
    encodeFormOctet b = percentTriplet b := by
  rw [encodeFormOctet]
  split
  · next h => exact .inl ⟨h, rfl⟩
  · split
    · next hplain =>
      right; left
      rw [Bool.and_eq_true, decide_eq_true_eq] at hplain
      obtain ⟨hlt, hplain⟩ := hplain
      refine ⟨Char.ofNat b, toNat_ofNat_of_lt hlt, hlt, ?_, ?_, ?_, ?_, rfl⟩
      all_goals
        intro hc
        rw [hc] at hplain
        exact absurd hplain (by decide)
    · exact .inr (.inr rfl)

/-- A written octet is read back, whatever follows it. -/
theorem formOctets_encodeFormOctet {b : Nat} (h : b < 256) (s : List Char) :
    formOctets (encodeFormOctet b ++ s) = b :: formOctets s := by
  rcases encodeFormOctet_cases b with ⟨rfl, hb⟩ | ⟨c, rfl, hlt, hplus, hpercent, -, -, hb⟩ | hb
  · rw [hb]
    exact percentDecodeOctets_cons_of_ne (by decide) _
  · have hne : c.toNat ≠ 0x25 := fun heq => hpercent (Char.toNat_inj.1 heq)
    rw [hb, List.singleton_append, formOctets, List.map_cons, unplus, if_neg hplus, percentDecode,
      Text.Utf8.encode_cons, encodeChar_of_lt hlt]
    exact percentDecodeOctets_cons_of_ne hne _
  · -- a triplet holds no plus
    have hmap : (percentTriplet b).map unplus = percentTriplet b := by
      obtain ⟨-, -, hhigh, -⟩ := upperHexDigit_spec (n := b / 16) (by omega)
      obtain ⟨-, -, hlow, -⟩ := upperHexDigit_spec (n := b % 16) (by omega)
      simp [percentTriplet, unplus, hhigh, hlow]
    rw [hb, formOctets, List.map_append, hmap, percentDecode, Text.Utf8.encode_append]
    exact percentDecodeOctets_triplet h _

/-- Written octets are read back. -/
theorem formOctets_flatMap {octets : List Nat} (h : ∀ b ∈ octets, b < 256) :
    formOctets (octets.flatMap encodeFormOctet) = octets := by
  induction octets with
  | nil => rfl
  | cons b rest ih =>
    rw [List.forall_mem_cons] at h
    rw [List.flatMap_cons, formOctets_encodeFormOctet h.1, ih h.2]

/-- **A written name or value is read back.** -/
theorem decodeForm_encodeForm (s : List Char) : decodeForm (encodeForm s) = s := by
  have hoctets : formOctets (encodeForm s) = Text.Utf8.encode s :=
    formOctets_flatMap fun _ hb => Text.Utf8.lt_of_mem_encode hb
  rw [decodeForm_eq, hoctets, Text.Utf8.decodeLossy_encode]

/-- No written name or value holds the marks that keep parameters apart. -/
theorem ne_of_mem_encodeForm {s : List Char} {c : Char} (h : c ∈ encodeForm s) :
    c ≠ '&' ∧ c ≠ '=' := by
  rw [encodeForm, List.mem_flatMap] at h
  obtain ⟨b, hb, hc⟩ := h
  have hlt := Text.Utf8.lt_of_mem_encode hb
  rcases encodeFormOctet_cases b with ⟨-, hform⟩ | ⟨d, -, -, -, -, hand, hequals, hform⟩ | hform
  · rw [hform, List.mem_singleton] at hc
    simp [hc]
  · rw [hform, List.mem_singleton] at hc
    rw [hc]
    exact ⟨hand, hequals⟩
  · obtain ⟨-, -, -, hhigh⟩ := upperHexDigit_spec (n := b / 16) (by omega)
    obtain ⟨-, -, -, hlow⟩ := upperHexDigit_spec (n := b % 16) (by omega)
    rw [hform] at hc
    simp only [percentTriplet, List.mem_cons, List.not_mem_nil, or_false] at hc
    rcases hc with rfl | rfl | rfl
    · decide
    · exact hhigh
    · exact hlow

/-! ### Parameters -/

theorem renderParameter_ne_nil (p : Parameter) : renderParameter p ≠ [] := by
  simp [renderParameter]

/-- No written parameter holds the mark that ends it. -/
theorem notMem_renderParameter (p : Parameter) : '&' ∉ renderParameter p := by
  intro h
  rw [renderParameter, List.mem_append, List.mem_cons] at h
  rcases h with h | h | h
  · exact (ne_of_mem_encodeForm h).1 rfl
  · exact absurd h (by decide)
  · exact (ne_of_mem_encodeForm h).1 rfl

/-- **A written parameter is read back.** -/
theorem parameterOf_renderParameter (p : Parameter) : parameterOf (renderParameter p) = p := by
  have hname : ∀ c ∈ encodeForm p.1, decide (c ≠ '=') = true := by
    intro c hc
    rw [decide_eq_true_eq]
    exact (ne_of_mem_encodeForm hc).2
  have htake : (renderParameter p).takeWhile (· ≠ '=') = encodeForm p.1 := by
    rw [renderParameter, List.takeWhile_append_of_pos hname]
    simp
  have hdrop : (renderParameter p).dropWhile (· ≠ '=') = '=' :: encodeForm p.2 := by
    rw [renderParameter, List.dropWhile_append_of_pos hname]
    simp
  rw [parameterOf, htake, hdrop, List.drop_one, List.tail_cons, decodeForm_encodeForm,
    decodeForm_encodeForm]

@[simp] theorem parametersOf_nil : parametersOf [] = [] := rfl

/-- A written parameter is the only one in its text. -/
theorem parametersOf_renderParameter (p : Parameter) : parametersOf (renderParameter p) = [p] := by
  rw [parametersOf, Text.splitAt_of_notMem (notMem_renderParameter p)]
  simp [renderParameter_ne_nil, parameterOf_renderParameter]

/-- The parameters before and after a mark are read on their own. -/
theorem parametersOf_append_cons (before after : List Char) :
    parametersOf (before ++ '&' :: after) = parametersOf before ++ parametersOf after := by
  rw [parametersOf, Text.splitAt_append_cons, List.filter_append, List.map_append]
  rfl

/-- Parameters appended to a query are read back behind those of the query. -/
theorem parametersOf_appendParameters (query : List Char) (ps : List Parameter) :
    parametersOf (appendParameters query ps) = parametersOf query ++ ps := by
  induction ps generalizing query with
  | nil => simp [appendParameters]
  | cons p rest ih =>
    rw [appendParameters, ih]
    -- only what is not empty gets a mark in front of the new parameter
    cases query with
    | nil => simp [parametersOf_renderParameter]
    | cons c query =>
      rw [if_neg (by simp), List.append_assoc, List.singleton_append, parametersOf_append_cons,
        parametersOf_renderParameter, List.append_assoc, List.singleton_append]

/-- **Appended parameters are read back behind the others.** -/
theorem parameters_withParameters (url : Url) (ps : List Parameter) :
    (url.withParameters ps).parameters = url.parameters ++ ps :=
  parametersOf_appendParameters (url.query.getD []) ps

end VideoPosters.Url
