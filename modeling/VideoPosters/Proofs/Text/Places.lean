import Mathlib.Data.String.Basic
import VideoPosters.Proofs.Text.Utf8

/-!
# Places in the octets of a text

A place is a number of octets.  A text can be cut at a place only if that is not beyond its end
and not inside a character.  A character of one octet is told from all others by any single octet
of them, so that the first place where two such characters stand in the octets of a text is one at
which the text can be cut.

## Main definitions

* `cut?`, `before?`, `behind?` — the texts around a place, if the text can be cut there.
* `place?` — the first place where the octets of a text occur in those of another.

## Main results

* `cut?_eq_some_iff` — the texts around a place make up the text, and the first is as long as the
  place says.
* `isSome_cut?_iff` — **a text can be cut just between characters.**
* `place?_cons` — **a text is found in octets where it is found among characters.**
-/

namespace VideoPosters.Text.Utf8

/-- The texts around a place, unless it is beyond the end of the text or inside a character. -/
def cut? : Nat → List Char → Option (List Char × List Char)
  | 0, s => some ([], s)
  | _ + 1, [] => none
  | n + 1, c :: s =>
    if charSize c ≤ n + 1 then
      (cut? (n + 1 - charSize c) s).map fun (before, behind) => (c :: before, behind)
    else none

/-- The text before a place. -/
def before? (n : Nat) (s : List Char) : Option (List Char) := (cut? n s).map Prod.fst

/-- The text behind a place. -/
def behind? (n : Nat) (s : List Char) : Option (List Char) := (cut? n s).map Prod.snd

/-- The first place where some octets occur among others. -/
def placeOf? (part : List Nat) : List Nat → Option Nat
  | [] => if part.isEmpty then some 0 else none
  | b :: octets =>
    if part.isPrefixOf (b :: octets) then some 0 else (placeOf? part octets).map (· + 1)

/-- The first place where the octets of a text occur in those of another. -/
def place? (part s : List Char) : Option Nat := placeOf? (encode part) (encode s)

/-! ### Octets of characters -/

theorem charSize_pos (c : Char) : 0 < charSize c := by
  simp only [charSize]
  split
  · exact Nat.one_pos
  · split
    · exact Nat.two_pos
    · split
      · exact Nat.succ_pos 2
      · exact Nat.succ_pos 3

theorem length_encodeChar (c : Char) : (encodeChar c).length = charSize c := by
  simp only [encodeChar, charSize]
  split
  · rfl
  · split
    · rfl
    · split <;> rfl

/-- The octets of a character that takes more than one are no characters of their own. -/
theorem le_of_mem_encodeChar {c : Char} {b : Nat} (hc : 0x80 ≤ c.toNat) (hb : b ∈ encodeChar c) :
    0x80 ≤ b := by
  simp only [encodeChar, if_neg (Nat.not_lt.2 hc)] at hb
  split at hb
  · simp only [List.mem_cons, List.not_mem_nil, or_false] at hb
    omega
  · split at hb
    all_goals
      simp only [List.mem_cons, List.not_mem_nil, or_false] at hb
      omega

/-- A character of one octet is not found inside any other. -/
theorem notMem_encodeChar {mark c : Char} (hmark : mark.toNat < 0x80) (hc : c ≠ mark) :
    mark.toNat ∉ encodeChar c := by
  intro hmem
  by_cases hascii : c.toNat < 0x80
  · rw [encodeChar_of_lt hascii, List.mem_singleton] at hmem
    exact hc (Char.toNat_inj.1 hmem.symm)
  · have hle := le_of_mem_encodeChar (Nat.not_lt.1 hascii) hmem
    omega

/-! ### Cutting -/

section

variable {n : Nat} {s before behind : List Char}

/-- The texts around a place make up the text, and the first is as long as the place says. -/
theorem cut?_eq_some_iff :
    cut? n s = some (before, behind) ↔ s = before ++ behind ∧ size before = n := by
  fun_induction cut? n s generalizing before with
  | case1 s =>
    constructor
    · intro h
      obtain ⟨rfl, rfl⟩ := Prod.mk.inj (Option.some.inj h)
      exact ⟨rfl, rfl⟩
    · rintro ⟨rfl, hsize⟩
      cases before with
      | nil => rfl
      | cons c before =>
        -- no text but the empty one takes no octets
        have hpos := charSize_pos c
        rw [size_cons] at hsize
        omega
  | case2 n =>
    refine iff_of_false (fun h => nomatch h) ?_
    rintro ⟨hs, hsize⟩
    rw [(List.append_eq_nil_iff.1 hs.symm).1] at hsize
    cases hsize
  | case3 n c s hle ih =>
    rw [Option.map_eq_some_iff]
    constructor
    · rintro ⟨⟨b, a⟩, hcut, he⟩
      obtain ⟨rfl, rfl⟩ := Prod.mk.inj he
      obtain ⟨rfl, hsize⟩ := ih.1 hcut
      refine ⟨rfl, ?_⟩
      rw [size_cons]
      omega
    · rintro ⟨hs, hsize⟩
      cases before with
      | nil => cases hsize
      | cons d before =>
        obtain ⟨rfl, rfl⟩ := List.cons.inj hs
        rw [size_cons] at hsize
        exact ⟨(before, behind), ih.2 ⟨rfl, by omega⟩, rfl⟩
  | case4 n c s hlt =>
    -- the place lies inside `c`, and no text before it ends there
    refine iff_of_false (fun h => nomatch h) ?_
    rintro ⟨hs, hsize⟩
    cases before with
    | nil => cases hsize
    | cons d before =>
      obtain ⟨rfl, -⟩ := List.cons.inj hs
      rw [size_cons] at hsize
      omega

theorem before?_append (before behind : List Char) :
    before? (size before) (before ++ behind) = some before := by
  rw [before?, cut?_eq_some_iff.2 ⟨rfl, rfl⟩, Option.map_some]

theorem behind?_append (before behind : List Char) :
    behind? (size before) (before ++ behind) = some behind := by
  rw [behind?, cut?_eq_some_iff.2 ⟨rfl, rfl⟩, Option.map_some]

end

/-- The size of a character is what the standard library takes it to be. -/
theorem charSize_eq_utf8Size (c : Char) : charSize c = c.utf8Size := by
  have h7F : c.val ≤ 0x7F ↔ c.toNat < 0x80 := by
    rw [UInt32.le_iff_toNat_le]
    exact Nat.lt_succ_iff.symm
  have h7FF : c.val ≤ 0x7FF ↔ c.toNat < 0x800 := by
    rw [UInt32.le_iff_toNat_le]
    exact Nat.lt_succ_iff.symm
  have hFFFF : c.val ≤ 0xFFFF ↔ c.toNat < 0x10000 := by
    rw [UInt32.le_iff_toNat_le]
    exact Nat.lt_succ_iff.symm
  unfold charSize Char.utf8Size
  simp only [← h7F, ← h7FF, ← hFFFF]
  rfl

/-- The size of a text is what the standard library takes it to be. -/
theorem size_toList (s : String) : size s.toList = s.utf8ByteSize := by
  rw [← String.utf8Len_toList]
  induction s.toList with
  | nil => rfl
  | cons c rest ih =>
    rw [size_cons, String.utf8Len_cons, ih, charSize_eq_utf8Size]
    omega

/-- **A text can be cut just between characters**, that is, at the positions that the standard
library takes to be valid. -/
theorem isSome_cut?_iff {n : Nat} {s : String} :
    (cut? n s.toList).isSome = true ↔ (String.Pos.Raw.mk n).IsValid s := by
  rw [Option.isSome_iff_exists, String.Pos.Raw.isValid_iff_exists_append]
  constructor
  · rintro ⟨⟨before, behind⟩, hcut⟩
    obtain ⟨hs, rfl⟩ := cut?_eq_some_iff.1 hcut
    refine ⟨String.ofList before, String.ofList behind, ?_, ?_⟩
    · rw [← String.ofList_append, ← hs, String.ofList_toList]
    · rw [String.Pos.Raw.ext_iff, String.byteIdx_rawEndPos, ← size_toList, String.toList_ofList]
  · rintro ⟨before, behind, rfl, hn⟩
    rw [String.Pos.Raw.ext_iff, String.byteIdx_rawEndPos, ← size_toList] at hn
    exact ⟨(before.toList, behind.toList),
      cut?_eq_some_iff.2 ⟨String.toList_append, hn.symm⟩⟩

/-- A character of two octets is not cut. -/
example : cut? 1 ['é'] = none := by decide

/-! ### Places -/

/-- The octets of a character tell where it ends. -/
theorem encodeChar_append_inj {c d : Char} {xs ys : List Nat}
    (h : encodeChar c ++ xs = encodeChar d ++ ys) : c = d ∧ xs = ys := by
  obtain ⟨a, tail, hoctets, hstep⟩ := decodeStep_encodeChar c xs
  obtain ⟨b, tail', hoctets', hstep'⟩ := decodeStep_encodeChar d ys
  obtain ⟨rfl, rfl⟩ := List.cons.inj (hoctets.symm.trans (h.trans hoctets'))
  exact Start.char.inj (hstep.symm.trans hstep')

/-- A text starts with another just if its octets do. -/
theorem encode_prefix_encode_iff {part s : List Char} :
    encode part <+: encode s ↔ part <+: s := by
  constructor
  · rintro ⟨octets, h⟩
    induction part generalizing s with
    | nil => exact List.nil_prefix
    | cons c part ih =>
      rw [encode_cons, List.append_assoc] at h
      cases s with
      | nil =>
        have hnone := (List.append_eq_nil_iff.1 h).1
        have hpos := charSize_pos c
        rw [← length_encodeChar, hnone] at hpos
        cases hpos
      | cons d s =>
        obtain ⟨rfl, hrest⟩ := encodeChar_append_inj h
        exact List.cons_prefix_cons.2 ⟨rfl, ih hrest⟩
  · rintro ⟨behind, rfl⟩
    exact ⟨encode behind, (encode_append part behind).symm⟩

/-- Octets among which the first one that is looked for is not are passed over. -/
theorem placeOf?_append {p : Nat} {part xs ys : List Nat} (h : p ∉ xs) :
    placeOf? (p :: part) (xs ++ ys) = (placeOf? (p :: part) ys).map (xs.length + ·) := by
  induction xs with
  | nil => simp
  | cons x xs ih =>
    rw [List.mem_cons, not_or] at h
    have hfirst : (p :: part).isPrefixOf (x :: (xs ++ ys)) = false := by
      simp [List.isPrefixOf, h.1]
    rw [List.cons_append, placeOf?, hfirst, if_neg Bool.false_ne_true, ih h.2, Option.map_map]
    congr 1
    funext n
    rw [Function.comp_apply, List.length_cons]
    omega

@[simp] theorem place?_nil (c : Char) (part : List Char) : place? (c :: part) [] = none := by
  have hne : encode (c :: part) ≠ [] := by
    intro hnil
    have hpos := charSize_pos c
    rw [← length_encodeChar, (List.append_eq_nil_iff.1 hnil).1] at hpos
    cases hpos
  rw [place?, encode_nil, placeOf?, if_neg (by rwa [List.isEmpty_iff])]

/-- **A text that starts with a character of one octet is found in octets where it is found among
characters.** -/
theorem place?_cons {mark : Char} (hmark : mark.toNat < 0x80) (part : List Char) (c : Char)
    (s : List Char) :
    place? (mark :: part) (c :: s) =
      if (mark :: part) <+: (c :: s) then some 0
      else (place? (mark :: part) s).map (charSize c + ·) := by
  have hpart : encode (mark :: part) = mark.toNat :: encode part := by
    rw [encode_cons, encodeChar_of_lt hmark, List.singleton_append]
  -- where `c` is not the first character of the text, none of its octets is the first octet
  by_cases hc : c = mark
  · subst hc
    have hs : encode (c :: s) = c.toNat :: encode s := by
      rw [encode_cons, encodeChar_of_lt hmark, List.singleton_append]
    have hsize : charSize c = 1 := by rw [← length_encodeChar, encodeChar_of_lt hmark]; rfl
    have hprefix : (encode (c :: part)).isPrefixOf (encode (c :: s)) = true ↔
        (c :: part) <+: (c :: s) := by
      rw [List.isPrefixOf_iff_prefix, encode_prefix_encode_iff]
    simp only [← hprefix]
    rw [place?, place?, hs, placeOf?, hsize]
    simp only [Nat.add_comm 1]
  · rw [if_neg fun h => hc (List.cons_prefix_cons.1 h).1.symm, place?, place?, encode_cons c, hpart,
      placeOf?_append (notMem_encodeChar hmark hc), length_encodeChar]

end VideoPosters.Text.Utf8
