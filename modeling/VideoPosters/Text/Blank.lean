/-!
# Blanks, trimming and words

A blank is a character with the Unicode property `White_Space`.

## Main definitions

* `isBlank` — the blanks.
* `trim` — a text without the blanks at its ends.
* `words` — the maximal runs of characters that are not blanks, in order.
-/

namespace VideoPosters.Text

/-- Blank characters. -/
def isBlank (c : Char) : Bool :=
  let n := c.toNat
  (9 ≤ n && n ≤ 13) || n == 0x20 || n == 0x85 || n == 0xA0 || n == 0x1680 ||
    (0x2000 ≤ n && n ≤ 0x200A) || n == 0x2028 || n == 0x2029 || n == 0x202F ||
    n == 0x205F || n == 0x3000

/-- A text without the blanks at its start. -/
def trimStart (s : List Char) : List Char := s.dropWhile isBlank

/-- A text without the blanks at its end. -/
def trimEnd (s : List Char) : List Char := (s.reverse.dropWhile isBlank).reverse

/-- A text without the blanks at its ends. -/
def trim (s : List Char) : List Char := trimEnd (trimStart s)

/-- The words of a text read after the characters `run` of a word not yet ended.
The run is kept in reverse. -/
def wordsAfter (run : List Char) : List Char → List (List Char)
  | [] => if run.isEmpty then [] else [run.reverse]
  | c :: rest =>
    if isBlank c then
      if run.isEmpty then wordsAfter [] rest else run.reverse :: wordsAfter [] rest
    else wordsAfter (c :: run) rest

/-- The maximal runs of characters that are not blanks, in order. -/
def words (s : List Char) : List (List Char) := wordsAfter [] s

/-- What is dropped from the start of a text are blanks. -/
theorem isBlank_or_mem_dropWhile {s : List Char} {c : Char} (h : c ∈ s) :
    isBlank c = true ∨ c ∈ s.dropWhile isBlank := by
  induction s with
  | nil => cases h
  | cons d rest ih =>
    rw [List.dropWhile_cons]
    split
    · next hd =>
      rcases List.mem_cons.1 h with rfl | h
      · exact .inl hd
      · exact ih h
    · exact .inr h

/-- What trimming takes away are blanks. -/
theorem isBlank_or_mem_trim {s : List Char} {c : Char} (h : c ∈ s) :
    isBlank c = true ∨ c ∈ trim s := by
  obtain hb | hs := isBlank_or_mem_dropWhile h
  · exact .inl hb
  · obtain hb | ht := isBlank_or_mem_dropWhile (List.mem_reverse.2 hs)
    · exact .inl hb
    · exact .inr (List.mem_reverse.2 ht)

/-- A text without blanks is left as it is by trimming. -/
theorem trim_eq_self {s : List Char} (h : ∀ c ∈ s, isBlank c = false) : trim s = s := by
  have hstart : ∀ t : List Char, (∀ c ∈ t, isBlank c = false) → t.dropWhile isBlank = t := by
    intro t ht
    cases t with
    | nil => rfl
    | cons c rest => rw [List.dropWhile_cons, ht c List.mem_cons_self, if_neg Bool.false_ne_true]
  have hend := hstart s.reverse fun c hc => h c (List.mem_reverse.1 hc)
  rw [trim, trimEnd, trimStart, hstart s h, hend, List.reverse_reverse]

@[simp] theorem words_nil : words [] = [] := rfl

@[simp] theorem trimStart_nil : trimStart [] = [] := rfl

end VideoPosters.Text
