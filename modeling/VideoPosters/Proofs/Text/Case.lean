/-!
# Capitals

What writing in lower case does to a character: a capital of ASCII moves to the small letter
32 places on, and any other character stays.

## Main results

* `toLower_of_not_isUpper`, `toNat_toLower_of_isUpper` — a character in lower case.
-/

namespace VideoPosters.Text

theorem isUpper_iff {c : Char} : c.isUpper = true ↔ 65 ≤ c.toNat ∧ c.toNat ≤ 90 := by
  have h : c.isUpper = true ↔ 'A'.val ≤ c.val ∧ c.val ≤ 'Z'.val := decide_eq_true_iff
  rw [h, UInt32.le_iff_toNat_le, UInt32.le_iff_toNat_le]
  rfl

theorem toLower_of_not_isUpper {c : Char} (h : c.isUpper = false) : c.toLower = c :=
  dif_neg (of_decide_eq_false h)

theorem toNat_toLower_of_isUpper {c : Char} (h : c.isUpper = true) :
    c.toLower.toNat = c.toNat + 32 := by
  have hrange := isUpper_iff.1 h
  have hlower : c.toLower.val = c.val + 32 := congrArg Char.val (dif_pos (of_decide_eq_true h))
  show c.toLower.val.toNat = c.val.toNat + 32
  have hval : c.val.toNat ≤ 90 := hrange.2
  have h32 : (32 : UInt32).toNat = 32 := rfl
  rw [hlower, UInt32.toNat_add]
  omega

end VideoPosters.Text
