import Mathlib.Data.List.Induction
import VideoPosters.Proofs.Json.Readers
import VideoPosters.Proofs.Json.Spelling

/-!
# Integers as they are written

A number of 32 bits is written in one way only: by its digits, without a sign, a point or an
exponent, and without zeros in front.

## Main definitions

* `Numeral.ofNat` — a number by its digits.

## Main results

* `numeral_ofDigitChars` — digits without zeros in front are those of their number.
* `word32_number` — a number of 32 bits is read from its digits.
* `eq_ofNat_of_word32` — **it is read from nothing else.**
-/

namespace VideoPosters.Json

/-- A number by its digits. -/
def Numeral.ofNat (n : Nat) : Numeral := ⟨false, Decimal.numeral n, none, none⟩

/-! ### Digits -/

section

variable {digits : List Char} {significand : Nat}

theorem ofDigitChars_concat (digits : List Char) (c : Char) :
    Nat.ofDigitChars 10 (digits ++ [c]) 0 = 10 * Nat.ofDigitChars 10 digits 0 + digitValue c := by
  rw [Nat.ofDigitChars_append, Nat.ofDigitChars_cons, Nat.ofDigitChars_nil]
  rfl

theorem digitChar_digitValue {c : Char} (h : c.isDigit = true) :
    digitValue c < 10 ∧ (digitValue c).digitChar = c := by
  have hrange : 48 ≤ c.toNat ∧ c.toNat ≤ 57 := Char.isDigit_iff_toNat.1 h
  have hlt : digitValue c < 10 := by
    unfold digitValue
    omega
  refine ⟨hlt, Char.toNat_inj.1 ?_⟩
  rw [Nat.toNat_digitChar_of_lt_ten hlt, digitValue]
  omega

/-- Digits without zeros in front are those of the number that they write. -/
theorem numeral_ofDigitChars (h : IsWhole digits) :
    Decimal.numeral (Nat.ofDigitChars 10 digits 0) = digits := by
  induction digits using List.reverseRecOn with
  | nil => exact absurd rfl h.1.1
  | append_singleton digits c ih =>
    obtain ⟨⟨-, hdigits⟩, hzero⟩ := h
    obtain ⟨hlt, hchar⟩ := digitChar_digitValue (hdigits c (by simp))
    rw [ofDigitChars_concat, Decimal.numeral]
    rcases List.eq_nil_or_concat digits with rfl | hcons
    · rw [Nat.ofDigitChars_nil, Nat.mul_zero, Nat.zero_add, Nat.toDigits_of_lt_base hlt, hchar,
        List.nil_append]
    · -- there is no zero in front, so the digits before the last do not write zero
      have hfront : digits ≠ [] := by
        obtain ⟨front, last, rfl⟩ := hcons
        simp
      have hhead : digits.head? ≠ some '0' := by
        intro hhead
        have hsingle := congrArg List.length (hzero (by rw [List.head?_append, hhead]; rfl))
        rw [List.length_append] at hsingle
        exact hfront (List.length_eq_zero_iff.1 (Nat.succ.inj hsingle))
      have hbefore := ih ⟨⟨hfront, fun d hd => hdigits d (List.mem_append_left _ hd)⟩,
        fun h => absurd h hhead⟩
      have hpos : Nat.ofDigitChars 10 digits 0 ≠ 0 := by
        intro h
        rw [h] at hbefore
        rw [← hbefore] at hhead
        exact hhead rfl
      rw [Nat.toDigits_of_base_le (by omega) (by omega)]
      have hdiv : (10 * Nat.ofDigitChars 10 digits 0 + digitValue c) / 10 =
          Nat.ofDigitChars 10 digits 0 := by omega
      have hmod : (10 * Nat.ofDigitChars 10 digits 0 + digitValue c) % 10 = digitValue c := by
        omega
      rw [hdiv, hmod, hchar]
      exact congrArg (· ++ [c]) hbefore

theorem le_ofDigitChars (digits : List Char) (significand : Nat) :
    significand ≤ Nat.ofDigitChars 10 digits significand := by
  induction digits generalizing significand with
  | nil => exact Nat.le_refl _
  | cons c digits ih =>
    rw [Nat.ofDigitChars_cons]
    have := ih (10 * significand + (c.toNat - '0'.toNat))
    omega

/-- Digits that fit are gathered. -/
theorem gatherWhole_eq (h : Nat.ofDigitChars 10 digits significand ≤ greatestWord) :
    gatherWhole significand digits = (Nat.ofDigitChars 10 digits significand, 0) := by
  induction digits generalizing significand with
  | nil => rfl
  | cons c digits ih =>
    rw [Nat.ofDigitChars_cons, Nat.mul_comm] at h ⊢
    have hfits := le_ofDigitChars digits (significand * 10 + (c.toNat - '0'.toNat))
    rw [gatherWhole, if_neg]
    · exact ih h
    · exact Nat.not_lt.2 (hfits.trans h)

/-- If no digit is left over, then all are gathered. -/
theorem gatherWhole_fst (h : (gatherWhole significand digits).2 = 0) :
    (gatherWhole significand digits).1 = Nat.ofDigitChars 10 digits significand := by
  induction digits generalizing significand with
  | nil => rfl
  | cons c digits ih =>
    rw [gatherWhole] at h ⊢
    split at h
    · cases h
    · next hfits =>
      rw [if_neg hfits, ih h, Nat.ofDigitChars_cons, Nat.mul_comm]
      rfl

end

/-! ### Numbers of 32 bits -/

theorem realOf?_ne_int {negative : Bool} {significand : Nat} {exponent i : Int} :
    realOf? negative significand exponent ≠ some (.int i) := by
  intro h
  obtain ⟨x, -, h⟩ := Option.map_eq_some_iff.1 h
  cases h

/-- What is read as a natural number is written by digits only. -/
theorem of_value?_eq_int {n : Numeral} {i : Nat} (h : n.value? = some (.int i)) :
    n.negative = false ∧ n.fraction = none ∧ n.exponent = none ∧
      i = Nat.ofDigitChars 10 n.whole 0 := by
  obtain ⟨negative, whole, fraction, exponent⟩ := n
  simp only [Numeral.value?] at h
  split at h
  · split at h
    · next hextra =>
      cases negative with
      | false =>
        rw [Bool.not_false, if_pos rfl, Option.some.injEq, Json.int.injEq] at h
        rw [gatherWhole_fst hextra] at h
        exact ⟨rfl, rfl, rfl, (Int.ofNat_inj.1 h).symm⟩
      | true =>
        rw [Bool.not_true, if_neg Bool.false_ne_true] at h
        split at h
        · exact absurd h realOf?_ne_int
        · next hnonzero =>
          rw [Option.some.injEq, Json.int.injEq] at h
          simp only [Bool.or_eq_true, decide_eq_true_iff, not_or] at hnonzero
          omega
    · exact absurd h realOf?_ne_int
  · split at h
    · exact absurd h realOf?_ne_int
    · split at h
      · cases h
      · exact absurd h realOf?_ne_int

/-- A number of 32 bits is read from its digits. -/
theorem word32_number {n : Nat} (h : n < Nat.pow 2 32) (room : Nat) :
    word32 room (.number (Numeral.ofNat n)) = .ok n := by
  have hdigits : Nat.ofDigitChars 10 (Decimal.numeral n) 0 = n := Nat.ofDigitChars_ten_toDigits
  have hfits : n ≤ greatestWord := Nat.le_trans (Nat.le_of_lt h) (by decide)
  have hgather : gatherWhole 0 (Decimal.numeral n) = (n, 0) := by
    rw [gatherWhole_eq (by rw [hdigits]; exact hfits), hdigits]
  have hvalue : (Numeral.ofNat n).value? = some (.int n) := by
    simp only [Numeral.value?, Numeral.ofNat, hgather, Bool.not_false, if_true]
  have hread : (Numeral.ofNat n).read = .ok (.int n) := by
    rw [Numeral.read, hvalue]
  have hword : word32OfInt n = .ok n := word32OfInt_eq_ok_iff.2 ⟨rfl, h⟩
  simp only [word32, hread, hword, bind, Except.bind]

/-- **A number of 32 bits is read from nothing but its digits.** -/
theorem eq_ofNat_of_word32 {n : Numeral} {text : List Char} (hspells : SpellsNumeral n text)
    {room i : Nat} (h : word32 room (.number n) = .ok i) :
    n = Numeral.ofNat i ∧ i < Nat.pow 2 32 := by
  obtain ⟨hread, hlt⟩ := word32_eq_ok h
  have hvalue : n.value? = some (.int i) := by
    rw [anyValue, Numeral.read] at hread
    cases hvalue : n.value? with
    | none => rw [hvalue] at hread; cases hread
    | some v =>
      rw [hvalue] at hread
      rw [Except.ok.inj hread]
  obtain ⟨hnegative, hfraction, hexponent, rfl⟩ := of_value?_eq_int hvalue
  obtain @⟨negative, whole, _, _, fraction, exponent, hwhole, -, -⟩ := hspells
  dsimp only at hnegative hfraction hexponent
  subst hnegative hfraction hexponent
  rw [Numeral.ofNat, numeral_ofDigitChars hwhole]
  exact ⟨rfl, hlt⟩

end VideoPosters.Json
