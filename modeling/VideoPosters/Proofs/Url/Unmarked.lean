import VideoPosters.Proofs.Url.Form
import VideoPosters.Url.Parse

/-!
# Texts without the marks of a query or a fragment

A question mark starts the query of a URL, and a number sign its fragment.  A text that is
written before them must not hold them: percent-encoding takes them out of user names,
passwords and paths, and no host is read that holds them, whether it is a name, a number or
the name that stands for one with characters beyond ASCII.

## Main definitions

* `IsUnmarked` — whether a text holds neither mark.

## Main results

* `mem_of_mem_percentEncode` — the marks that percent-encoding leaves.
* `isUnmarked_encodeForm` — written parameters hold no mark.
* `isUnmarked_asciiLabel` — the ASCII form of a label holds no mark that the label does not.
* `isUnmarked_ofSpecial?`, `isUnmarked_ofOther?` — **no host that is read holds a mark.**
-/

namespace VideoPosters.Url

/-- Whether a text holds no mark of a query or a fragment. -/
def IsUnmarked (s : List Char) : Prop := ∀ c ∈ s, endsPath c = false

instance (s : List Char) : Decidable (IsUnmarked s) :=
  decidable_of_iff (s.all (!endsPath ·) = true) (by simp [IsUnmarked])

theorem endsPath_iff {c : Char} : endsPath c = true ↔ c = '?' ∨ c = '#' := by
  simp [endsPath]

@[simp] theorem isUnmarked_nil : IsUnmarked [] := by
  simp [IsUnmarked]

@[simp] theorem isUnmarked_cons {c : Char} {s : List Char} :
    IsUnmarked (c :: s) ↔ endsPath c = false ∧ IsUnmarked s :=
  List.forall_mem_cons

@[simp] theorem isUnmarked_append {s t : List Char} :
    IsUnmarked (s ++ t) ↔ IsUnmarked s ∧ IsUnmarked t :=
  List.forall_mem_append

theorem isUnmarked_flatMap {α : Type} {f : α → List Char} {l : List α}
    (h : ∀ a ∈ l, IsUnmarked (f a)) : IsUnmarked (l.flatMap f) := by
  intro c hc
  obtain ⟨a, ha, hca⟩ := List.mem_flatMap.1 hc
  exact h a ha c hca

theorem IsUnmarked.subset {s t : List Char} (h : IsUnmarked t) (hsub : s ⊆ t) : IsUnmarked s :=
  fun c hc => h c (hsub hc)

/-- A text without marks holds neither of them. -/
theorem IsUnmarked.notMem {s : List Char} (h : IsUnmarked s) : '?' ∉ s ∧ '#' ∉ s :=
  ⟨fun hc => absurd (h _ hc) (by decide), fun hc => absurd (h _ hc) (by decide)⟩

/-- What stands before the first mark. -/
theorem isUnmarked_takeWhile (s : List Char) : IsUnmarked (s.takeWhile (!endsPath ·)) := by
  intro c hc
  have hall := List.all_eq_true.1 (List.all_takeWhile (p := (!endsPath ·)) (l := s)) c hc
  simpa using hall

/-- No letter or digit is a mark. -/
theorem endsPath_of_isAlphanum {c : Char} (h : c.isAlphanum = true) : endsPath c = false := by
  rw [Bool.eq_false_iff, ne_eq, endsPath_iff]
  rintro (rfl | rfl) <;> exact absurd h (by decide)

/-! ### Percent-encoding -/

theorem isUnmarked_percentTriplet {b : Nat} (h : b < 256) : IsUnmarked (percentTriplet b) := by
  have hdigit : ∀ n < 16, endsPath (upperHexDigit n) = false := by decide
  simp only [percentTriplet, isUnmarked_cons, isUnmarked_nil, and_true]
  exact ⟨by decide, hdigit _ (by omega), hdigit _ (by omega)⟩

/-- A mark in an encoded text is one of the text that the set does not ask for. -/
theorem mem_of_mem_percentEncode {inSet : Nat → Bool} {s : List Char} {c : Char}
    (h : c ∈ percentEncode inSet s) (hmark : endsPath c = true) :
    c ∈ s ∧ inSet c.toNat = false := by
  rw [percentEncode, List.mem_flatMap] at h
  obtain ⟨d, hd, hc⟩ := h
  rw [percentEncodeChar] at hc
  -- an ASCII character becomes itself or a triplet, any other one the triplets of its octets
  split at hc
  · next hlt =>
    split at hc
    · exact absurd (isUnmarked_percentTriplet (by omega) c hc) (by simp [hmark])
    · next hout =>
      rw [List.mem_singleton.1 hc]
      exact ⟨hd, by simpa using hout⟩
  · have hoctets : IsUnmarked ((Text.Utf8.encodeChar d).flatMap percentTriplet) := by
      refine isUnmarked_flatMap fun b hb => isUnmarked_percentTriplet ?_
      exact Text.Utf8.lt_of_mem_encode (s := [d]) (by simpa using hb)
    exact absurd (hoctets c hc) (by simp [hmark])

/-- Encoding with a set that has both marks takes them out. -/
theorem isUnmarked_percentEncode {inSet : Nat → Bool} (hquery : inSet 0x3F = true)
    (hfragment : inSet 0x23 = true) (s : List Char) : IsUnmarked (percentEncode inSet s) := by
  intro c hc
  rw [Bool.eq_false_iff]
  intro hmark
  have hout := (mem_of_mem_percentEncode hc hmark).2
  rcases endsPath_iff.1 hmark with rfl | rfl
  · exact absurd hquery (Bool.eq_false_iff.1 hout)
  · exact absurd hfragment (Bool.eq_false_iff.1 hout)

/-- Encoding puts no mark in. -/
theorem IsUnmarked.percentEncode {s : List Char} (h : IsUnmarked s) (inSet : Nat → Bool) :
    IsUnmarked (percentEncode inSet s) := by
  intro c hc
  rw [Bool.eq_false_iff]
  intro hmark
  exact absurd hmark (Bool.eq_false_iff.1 (h c (mem_of_mem_percentEncode hc hmark).1))

/-- Encoding with a set that has the mark of the fragment takes that out. -/
theorem notMem_percentEncode {inSet : Nat → Bool} (h : inSet 0x23 = true) (s : List Char) :
    '#' ∉ percentEncode inSet s := by
  intro hc
  exact absurd h (Bool.eq_false_iff.1 (mem_of_mem_percentEncode hc (by decide)).2)

/-! ### Parameters -/

/-- Written names and values hold no mark. -/
theorem isUnmarked_encodeForm (s : List Char) : IsUnmarked (encodeForm s) := by
  refine isUnmarked_flatMap fun b hb => ?_
  rw [encodeFormOctet]
  split
  · simp only [isUnmarked_cons, isUnmarked_nil, and_true]
    decide
  · split
    · next hplain =>
      rw [Bool.and_eq_true] at hplain
      simp only [isUnmarked_cons, isUnmarked_nil, and_true]
      rw [Bool.eq_false_iff, ne_eq, endsPath_iff]
      rintro (hc | hc)
      all_goals
        rw [hc] at hplain
        exact absurd hplain.2 (by decide)
    · exact isUnmarked_percentTriplet (Text.Utf8.lt_of_mem_encode hb)

/-- Written parameters hold no mark. -/
theorem isUnmarked_renderParameter (p : Parameter) : IsUnmarked (renderParameter p) := by
  rw [renderParameter, isUnmarked_append, isUnmarked_cons]
  exact ⟨isUnmarked_encodeForm _, by decide, isUnmarked_encodeForm _⟩

/-- Parameters that are appended do not end the query. -/
theorem notMem_appendParameters {query : List Char} (h : '#' ∉ query) (ps : List Parameter) :
    '#' ∉ appendParameters query ps := by
  induction ps generalizing query with
  | nil => exact h
  | cons p rest ih =>
    rw [appendParameters]
    apply ih
    rw [List.mem_append, not_or]
    refine ⟨?_, (isUnmarked_renderParameter p).notMem.2⟩
    split
    · exact List.not_mem_nil
    · simp [h]

/-! ### Numbers -/

theorem isUnmarked_toDigits {b : Nat} (hb : 1 < b) (hle : b ≤ 16) (n : Nat) :
    IsUnmarked (Nat.toDigits b n) := by
  have hdigit : ∀ d < 16, endsPath (Nat.digitChar d) = false := by decide
  induction n using Nat.strongRecOn with
  | ind n ih =>
    by_cases h : n < b
    · rw [Nat.toDigits_of_lt_base h, isUnmarked_cons]
      exact ⟨hdigit _ (by omega), isUnmarked_nil⟩
    · have hmod := Nat.mod_lt n (show 0 < b by omega)
      rw [Nat.toDigits_of_base_le hb (by omega), isUnmarked_append, isUnmarked_cons]
      exact ⟨ih _ (Nat.div_lt_self (by omega) hb), hdigit _ (by omega), isUnmarked_nil⟩

theorem isUnmarked_numeral (n : Nat) : IsUnmarked (Decimal.numeral n) :=
  isUnmarked_toDigits (by decide) (by decide) n

theorem isUnmarked_renderIpv4 (address : Nat) : IsUnmarked (renderIpv4 address) := by
  have hdot : endsPath '.' = false := rfl
  simp [renderIpv4, isUnmarked_numeral, hdot]

theorem isUnmarked_renderPieces (pieces : List Nat) : IsUnmarked (renderPieces pieces) := by
  have hcolon : endsPath ':' = false := rfl
  induction pieces with
  | nil => exact isUnmarked_nil
  | cons p rest ih =>
    cases rest with
    | nil => exact isUnmarked_toDigits (by decide) (by decide) p
    | cons q rest =>
      rw [renderPieces, isUnmarked_append, isUnmarked_cons]
      exact ⟨isUnmarked_toDigits (by decide) (by decide) p, hcolon, ih⟩

theorem isUnmarked_renderIpv6 (pieces : List Nat) : IsUnmarked (renderIpv6 pieces) := by
  have hcolon : endsPath ':' = false := rfl
  rw [renderIpv6]
  dsimp only
  split
  · simp [isUnmarked_renderPieces, hcolon]
  · exact isUnmarked_renderPieces pieces

/-! ### Names in ASCII characters -/

section

open Domain Domain.Punycode

/-- Digits of a distance are below 36, and none of those is a mark. -/
theorem isUnmarked_digitsOf (bias place n : Nat) : IsUnmarked (digitsOf bias place n) := by
  have hdigit : ∀ d < 36, endsPath (digit d) = false := by decide
  have hthreshold := threshold_le place bias
  induction n using Nat.strongRecOn generalizing place with
  | ind n ih =>
    have hone := one_le_threshold place bias
    rw [digitsOf]
    split
    · next hlt =>
      rw [isUnmarked_cons]
      exact ⟨hdigit _ (by omega), isUnmarked_nil⟩
    · next hle =>
      have hmod := Nat.mod_lt (n - threshold place bias)
        (show 0 < 36 - threshold place bias by omega)
      have hdiv := Nat.div_le_self (n - threshold place bias) (36 - threshold place bias)
      rw [isUnmarked_cons]
      exact ⟨hdigit _ (by omega), ih _ (by omega) _ (threshold_le _ _)⟩

/-- Walking over a character writes digits or nothing. -/
theorem isUnmarked_step (basicCount code : Nat) {e : Encoding} (h : IsUnmarked e.output)
    (c : Char) : IsUnmarked (e.step basicCount code c).output := by
  rw [Encoding.step]
  split
  · exact h
  · split
    · exact isUnmarked_append.2 ⟨h, isUnmarked_digitsOf _ _ _⟩
    · exact h

/-- So does walking over a text. -/
theorem isUnmarked_foldl_step (basicCount code : Nat) (s : List Char) {e : Encoding}
    (h : IsUnmarked e.output) :
    IsUnmarked (s.foldl (Encoding.step basicCount code) e).output := by
  induction s generalizing e with
  | nil => exact h
  | cons c s ih => exact ih (isUnmarked_step basicCount code h c)

/-- So do the walks for all code points. -/
theorem isUnmarked_encodeCodes (s : List Char) (basicCount : Nat) (codes : List Nat)
    (next : Nat) {e : Encoding} (h : IsUnmarked e.output) :
    IsUnmarked (encodeCodes s basicCount next e codes).output := by
  induction codes generalizing next e with
  | nil => exact h
  | cons code codes ih =>
    rw [encodeCodes]
    exact ih _ (isUnmarked_foldl_step basicCount code s h)

/-- The ASCII form of a label holds no mark that the label does not hold. -/
theorem isUnmarked_asciiLabel {label : List Char} (h : IsUnmarked label) :
    IsUnmarked (asciiLabel label) := by
  rw [asciiLabel]
  split
  · exact h
  · rw [encode]
    simp only [isUnmarked_append]
    -- the prefix, then what is plain in the label, then digits behind a hyphen
    refine ⟨by decide, ⟨h.subset List.filter_sublist.subset, ?_⟩, ?_⟩
    · split
      · exact isUnmarked_nil
      · decide
    · exact isUnmarked_encodeCodes _ _ _ _ isUnmarked_nil

/-- A character that is a mark is forbidden in domain names. -/
theorem isForbidden_of_endsPath {c : Char} (h : endsPath c = true) : isForbidden c = true := by
  rcases endsPath_iff.1 h with rfl | rfl <;> decide

/-- The ASCII form of a domain name holds no mark. -/
theorem isUnmarked_toAscii? {octets : List Nat} {domain : List Char}
    (h : toAscii? octets = some domain) : IsUnmarked domain := by
  rw [toAscii?] at h
  simp only [bind, Option.bind_eq_some_iff] at h
  obtain ⟨_, -, _, -, labels, -, h⟩ := h
  split at h
  · cases h
  · next hallowed =>
    rw [Bool.or_eq_true, not_or, List.any_eq_true] at hallowed
    rw [← Option.some.inj h]
    intro c hc
    rcases Text.mem_joinWith hc with hdot | ⟨s, hs, hcs⟩
    · rw [List.mem_singleton.1 hdot]
      rfl
    · -- the marks are refused in all labels before these are written in ASCII
      obtain ⟨label, hlabel, rfl⟩ := List.mem_map.1 hs
      refine isUnmarked_asciiLabel (fun d hd => ?_) c hcs
      rw [Bool.eq_false_iff]
      intro hmark
      exact hallowed.1 ⟨label, hlabel, List.any_eq_true.2 ⟨d, hd, isForbidden_of_endsPath hmark⟩⟩

end

/-! ### Hosts -/

/-- A host between brackets is written in numbers. -/
theorem isUnmarked_bracketed? {s : List Char} {host : Host} (h : bracketed? s = .ok host) :
    IsUnmarked host.render := by
  have hopen : endsPath '[' = false := rfl
  have hclose : endsPath ']' = false := rfl
  unfold bracketed? at h
  split at h
  · split at h
    · rw [← Except.ok.inj h]
      simp [Host.render, isUnmarked_renderIpv6, hopen, hclose]
    · cases h
  · cases h

/-- **No host of a special scheme holds a mark.** -/
theorem isUnmarked_ofSpecial? {s : List Char} {host : Host} (h : Host.ofSpecial? s = .ok host) :
    IsUnmarked host.render := by
  unfold Host.ofSpecial? at h
  split at h
  · exact isUnmarked_bracketed? h
  · split at h
    · cases h
    · next domain hdomain =>
      split at h
      · cases h
      · split at h
        · split at h
          · rw [← Except.ok.inj h]
            exact isUnmarked_renderIpv4 _
          · cases h
        · rw [← Except.ok.inj h]
          exact isUnmarked_toAscii? hdomain

/-- **No host of any other scheme holds a mark.** -/
theorem isUnmarked_ofOther? {s : List Char} {host : Host} (h : Host.ofOther? s = .ok host) :
    IsUnmarked host.render := by
  unfold Host.ofOther? at h
  split at h
  · exact isUnmarked_bracketed? h
  · split at h
    · cases h
    · next hallowed =>
      rw [← Except.ok.inj h]
      rw [List.any_eq_true] at hallowed
      refine IsUnmarked.percentEncode (fun c hc => ?_) _
      rw [Bool.eq_false_iff]
      intro hmark
      refine hallowed ⟨c, hc, ?_⟩
      rcases endsPath_iff.1 hmark with rfl | rfl <;> decide

end VideoPosters.Url
