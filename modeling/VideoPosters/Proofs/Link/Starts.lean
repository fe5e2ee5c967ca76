import Mathlib.Data.List.Forall2
import VideoPosters.Link
import VideoPosters.Proofs.Text.Case

/-!
# How the addresses of videos start

The addresses of a shape start with one of a few words, in whatever case.  A word is left
out or taken as a whole: where an option can be taken, what comes behind it cannot stand in
its place, since it starts with another character.  No word is the start of a word of
another shape, so no address starts like two of them.

## Main definitions

* `FoldsTo` — the characters that fold to a character of ASCII.
* `Spells` — the texts that are a word in whatever case.
* `Shape.starts` — the words with which the addresses of a shape start.

## Main results

* `afterStart?_eq_some_iff` — what follows a word in whatever case.
* `Shape.afterPrefix?_eq_some_iff` — **what follows the start of an address of a shape.**
* `Shape.eq_of_afterPrefix?` — **no address starts like two shapes.**
-/

namespace VideoPosters.Link

/-! ### Case -/

/-- The characters that simple case folding takes to a character of ASCII. -/
inductive FoldsTo : Char → Char → Prop where
  /-- What is no capital stays as it is. -/
  | same {c : Char} (hc : c.isUpper = false) : FoldsTo c c
  /-- A capital becomes the small letter. -/
  | capital {c p : Char} (hc : c.isUpper = true) (hp : p.toNat = c.toNat + 32) : FoldsTo c p
  /-- The long s is an `s`. -/
  | longS : FoldsTo '\u017F' 's'
  /-- The Kelvin sign is a `k`. -/
  | kelvin : FoldsTo '\u212A' 'k'

/-- Whether a text is a word in whatever case. -/
def Spells (text word : List Char) : Prop := List.Forall₂ FoldsTo text word

/-- Folding takes to a character of ASCII just those that fold to it. -/
theorem fold_eq_iff {c p : Char} (hp : p.toNat < 0x80) : fold c = p ↔ FoldsTo c p := by
  constructor
  · rintro rfl
    -- two characters outside of ASCII fold into it, and of the others just the capitals change
    unfold fold at hp ⊢
    split
    · next h => exact h ▸ .longS
    · split
      · next h => exact h ▸ .kelvin
      · cases hc : c.isUpper with
        | true => exact .capital hc (Text.toNat_toLower_of_isUpper hc)
        | false =>
          rw [Text.toLower_of_not_isUpper hc]
          exact .same hc
  · intro h
    cases h with
    | longS => rfl
    | kelvin => rfl
    | same hc =>
      have hs : c ≠ '\u017F' := by
        rintro rfl
        exact absurd hp (by decide)
      have hk : c ≠ '\u212A' := by
        rintro rfl
        exact absurd hp (by decide)
      rw [fold, if_neg hs, if_neg hk, Text.toLower_of_not_isUpper hc]
    | capital hc hnat =>
      have hs : c ≠ '\u017F' := by
        rintro rfl
        exact absurd hc (by decide)
      have hk : c ≠ '\u212A' := by
        rintro rfl
        exact absurd hc (by decide)
      rw [fold, if_neg hs, if_neg hk, ← Char.toNat_inj, Text.toNat_toLower_of_isUpper hc, hnat]

/-- A text is a word of ASCII in whatever case just if it folds to it. -/
theorem spells_iff {text word : List Char} (hword : ∀ p ∈ word, p.toNat < 0x80) :
    Spells text word ↔ text.map fold = word := by
  induction word generalizing text with
  | nil => rw [Spells, List.forall₂_nil_right_iff, List.map_eq_nil_iff]
  | cons p word ih =>
    rw [List.forall_mem_cons] at hword
    rw [Spells, List.forall₂_cons_right_iff, List.map_eq_cons_iff]
    constructor
    · rintro ⟨c, text, hc, htext, rfl⟩
      exact ⟨c, text, rfl, (fold_eq_iff hword.1).2 hc, (ih hword.2).1 htext⟩
    · rintro ⟨c, text, rfl, hc, htext⟩
      exact ⟨c, text, (fold_eq_iff hword.1).1 hc, (ih hword.2).2 htext, rfl⟩

/-! ### What follows a word -/

variable {word s rest : List Char}

@[simp] theorem afterStart?_nil (s : List Char) : afterStart? [] s = some s := by
  rw [afterStart?]

@[simp] theorem afterStart?_cons_nil (p : Char) (ps : List Char) :
    afterStart? (p :: ps) [] = none := rfl

theorem afterStart?_cons_cons (p c : Char) (ps cs : List Char) :
    afterStart? (p :: ps) (c :: cs) = if fold c = p then afterStart? ps cs else none := rfl

/-- What follows a word in whatever case. -/
theorem afterStart?_eq_some_iff :
    afterStart? word s = some rest ↔ ∃ start, s = start ++ rest ∧ start.map fold = word := by
  induction word generalizing s with
  | nil => simp
  | cons p word ih =>
    cases s with
    | nil => simp
    | cons c s =>
      rw [afterStart?_cons_cons, Option.ite_none_right_eq_some, ih]
      constructor
      · rintro ⟨hc, start, rfl, hstart⟩
        exact ⟨c :: start, rfl, by rw [List.map_cons, hc, hstart]⟩
      · rintro ⟨start, hs, hstart⟩
        obtain ⟨d, start, rfl, hd, hrest⟩ := List.map_eq_cons_iff.1 hstart
        obtain ⟨rfl, rfl⟩ := List.cons.inj hs
        exact ⟨hd, start, rfl, hrest⟩

/-- One word after the other is one word. -/
theorem afterStart?_append (word word' s : List Char) :
    afterStart? (word ++ word') s = (afterStart? word s).bind (afterStart? word') := by
  induction word generalizing s with
  | nil => simp
  | cons p word ih =>
    cases s with
    | nil => simp
    | cons c s =>
      rw [List.cons_append, afterStart?_cons_cons, afterStart?_cons_cons]
      split
      · exact ih s
      · rfl

/-- Of words with different first characters one at most can stand at the start. -/
theorem afterStart?_eq_none_of_ne {p q : Char} (hne : p ≠ q) {ps qs : List Char}
    (h : afterStart? (p :: ps) s ≠ none) : afterStart? (q :: qs) s = none := by
  cases s with
  | nil => rfl
  | cons c s =>
    rw [afterStart?_cons_cons] at h ⊢
    split at h
    · next hc => rw [if_neg (hc ▸ hne)]
    · exact absurd rfl h

/-- A word behind an option that starts with another character: the option is there or not. -/
theorem afterStart?_afterOptional {p q : Char} (hne : p ≠ q) (ps qs s rest : List Char) :
    afterStart? (q :: qs) (afterOptional (p :: ps) s) = some rest ↔
      afterStart? (q :: qs) s = some rest ∨
        afterStart? ((p :: ps) ++ (q :: qs)) s = some rest := by
  rw [afterOptional, afterStart?_append]
  cases h : afterStart? (p :: ps) s with
  | none => simp
  | some behind =>
    have hnone : afterStart? (q :: qs) s = none :=
      afterStart?_eq_none_of_ne hne (by rw [h]; exact Option.some_ne_none behind)
    simp [hnone]

/-- Of two words that stand at the start of one text, one is the start of the other. -/
theorem isPrefix_or_isPrefix_of_afterStart? {word' rest' : List Char}
    (h : afterStart? word s = some rest) (h' : afterStart? word' s = some rest') :
    word <+: word' ∨ word' <+: word := by
  obtain ⟨start, rfl, rfl⟩ := afterStart?_eq_some_iff.1 h
  obtain ⟨start', hs, rfl⟩ := afterStart?_eq_some_iff.1 h'
  -- both words are read from one text, so what was read of it is nested
  have hstart : start <+: start ++ rest := List.prefix_append start rest
  have hstart' : start' <+: start ++ rest := hs ▸ List.prefix_append start' rest'
  rcases List.prefix_or_prefix_of_prefix hstart hstart' with hle | hle
  · exact .inl (hle.map fold)
  · exact .inr (hle.map fold)

/-! ### The starts of the shapes -/

namespace Shape

/-- The words with which the addresses of a shape start. -/
def starts : Shape → List String
  | standard => ["http://youtube.com/watch?v=", "http://www.youtube.com/watch?v=",
      "https://youtube.com/watch?v=", "https://www.youtube.com/watch?v="]
  | alternate => ["http://youtube.com/v/", "http://www.youtube.com/v/",
      "https://youtube.com/v/", "https://www.youtube.com/v/"]
  | short => ["http://youtu.be/", "https://youtu.be/"]
  | embed => ["http://youtube.com/embed/", "http://www.youtube.com/embed/",
      "https://youtube.com/embed/", "https://www.youtube.com/embed/"]

/-- The words for the schemes of addresses. -/
def schemes : List String := ["http://", "https://"]

/-- What stands between the scheme and the identifier in the addresses of a shape. -/
def hosts : Shape → List String
  | standard => ["youtube.com/watch?v=", "www.youtube.com/watch?v="]
  | alternate => ["youtube.com/v/", "www.youtube.com/v/"]
  | short => ["youtu.be/"]
  | embed => ["youtube.com/embed/", "www.youtube.com/embed/"]

/-- A start is a scheme with a host and a path behind it. -/
theorem starts_eq (shape : Shape) :
    shape.starts = schemes.flatMap fun scheme => shape.hosts.map (scheme ++ ·) := by
  cases shape <;> decide

theorem toNat_lt_of_mem_schemes {scheme : String} (h : scheme ∈ schemes) :
    ∀ p ∈ scheme.toList, p.toNat < 0x80 := by
  have hall : ∀ scheme ∈ schemes, scheme.toList.all (·.toNat < 0x80) = true := by decide
  simpa using hall scheme h

theorem toNat_lt_of_mem_hosts {shape : Shape} {host : String} (h : host ∈ shape.hosts) :
    ∀ p ∈ host.toList, p.toNat < 0x80 := by
  have hall : ∀ host ∈ shape.hosts, host.toList.all (·.toNat < 0x80) = true := by
    cases shape <;> decide
  simpa using hall host h

theorem toNat_lt_of_mem_starts {shape : Shape} {start : String} (h : start ∈ shape.starts) :
    ∀ p ∈ start.toList, p.toNat < 0x80 := by
  rw [starts_eq, List.mem_flatMap] at h
  obtain ⟨scheme, hscheme, h⟩ := h
  obtain ⟨host, hhost, rfl⟩ := List.mem_map.1 h
  intro p hp
  rw [String.toList_append, List.mem_append] at hp
  rcases hp with hp | hp
  · exact toNat_lt_of_mem_schemes hscheme p hp
  · exact toNat_lt_of_mem_hosts hhost p hp

/-- What follows the scheme of an address, whatever the shape. -/
def afterScheme? (s : List Char) : Option (List Char) :=
  (afterStart? "http".toList s).bind fun s => afterStart? "://".toList (afterOptional ['s'] s)

/-- What follows the host and the path of a shape behind the scheme. -/
def afterHost? (shape : Shape) (s : List Char) : Option (List Char) :=
  afterStart? shape.hostAndPath (if shape.allowsWww then afterOptional "www.".toList s else s)

theorem afterPrefix?_eq (shape : Shape) (s : List Char) :
    shape.afterPrefix? s = (afterScheme? s).bind shape.afterHost? := by
  rw [afterScheme?, Option.bind_assoc]
  rfl

theorem afterScheme?_eq_some_iff {s behind : List Char} :
    afterScheme? s = some behind ↔
      ∃ scheme ∈ schemes, afterStart? scheme.toList s = some behind := by
  have hplain : "http://".toList = "http".toList ++ "://".toList := rfl
  have hsecure : "https://".toList = "http".toList ++ (['s'] ++ "://".toList) := rfl
  have hne : 's' ≠ ':' := by decide
  -- an `s` is there or not, and what follows it starts with a colon
  simp only [schemes, List.mem_cons, List.not_mem_nil, or_false, exists_eq_or_imp, exists_eq_left]
  rw [afterScheme?, hplain, hsecure, afterStart?_append, afterStart?_append,
    Option.bind_eq_some_iff, Option.bind_eq_some_iff, Option.bind_eq_some_iff, ← exists_or]
  refine exists_congr fun t => ?_
  rw [← and_or_left]
  exact and_congr_right fun _ => afterStart?_afterOptional hne [] "//".toList t behind

/-- The words of a shape for what stands between the scheme and the identifier. -/
theorem map_toList_hosts (shape : Shape) :
    shape.hosts.map String.toList =
      if shape.allowsWww then [shape.hostAndPath, "www.".toList ++ shape.hostAndPath]
      else [shape.hostAndPath] := by
  have hstandard : "www.youtube.com/watch?v=" = "www." ++ "youtube.com/watch?v=" := by decide
  have halternate : "www.youtube.com/v/" = "www." ++ "youtube.com/v/" := by decide
  have hembed : "www.youtube.com/embed/" = "www." ++ "youtube.com/embed/" := by decide
  cases shape with
  | standard => rw [hosts, hstandard, List.map_cons, List.map_singleton, String.toList_append]; rfl
  | alternate => rw [hosts, halternate, List.map_cons, List.map_singleton, String.toList_append]; rfl
  | short => rfl
  | embed => rw [hosts, hembed, List.map_cons, List.map_singleton, String.toList_append]; rfl

/-- The first character of all hosts. -/
theorem exists_hostAndPath (shape : Shape) : ∃ path, shape.hostAndPath = 'y' :: path := by
  cases shape <;> exact ⟨_, rfl⟩

theorem afterHost?_eq_some_iff {shape : Shape} {s rest : List Char} :
    shape.afterHost? s = some rest ↔
      ∃ host ∈ shape.hosts, afterStart? host.toList s = some rest := by
  have hmap : (∃ host ∈ shape.hosts, afterStart? host.toList s = some rest) ↔
      ∃ host ∈ shape.hosts.map String.toList, afterStart? host s = some rest := by
    simp
  obtain ⟨path, hhost⟩ := exists_hostAndPath shape
  rw [hmap, map_toList_hosts, afterHost?]
  split
  · have hne : 'w' ≠ 'y' := by decide
    simp only [List.mem_cons, List.not_mem_nil, or_false, exists_eq_or_imp, exists_eq_left]
    rw [hhost]
    exact afterStart?_afterOptional hne "ww.".toList path s rest
  · simp

/-- **What follows the start of an address of a shape**, in whatever case. -/
theorem afterPrefix?_eq_some_iff {shape : Shape} {s rest : List Char} :
    shape.afterPrefix? s = some rest ↔
      ∃ start ∈ shape.starts, ∃ text, s = text ++ rest ∧ Spells text start.toList := by
  have hstarts : (∃ start ∈ shape.starts, ∃ text, s = text ++ rest ∧ Spells text start.toList) ↔
      ∃ start ∈ shape.starts, afterStart? start.toList s = some rest := by
    refine exists_congr fun start => and_congr_right fun hstart => ?_
    rw [afterStart?_eq_some_iff]
    simp only [spells_iff (toNat_lt_of_mem_starts hstart)]
  rw [hstarts, afterPrefix?_eq, Option.bind_eq_some_iff, starts_eq]
  simp only [afterScheme?_eq_some_iff, afterHost?_eq_some_iff]
  constructor
  · rintro ⟨behind, ⟨scheme, hscheme, hbehind⟩, host, hhost, hrest⟩
    refine ⟨scheme ++ host, ?_, ?_⟩
    · exact List.mem_flatMap.2 ⟨scheme, hscheme, List.mem_map.2 ⟨host, hhost, rfl⟩⟩
    · rw [String.toList_append, afterStart?_append, hbehind]
      exact hrest
  · rintro ⟨start, hstart, hrest⟩
    obtain ⟨scheme, hscheme, hstart⟩ := List.mem_flatMap.1 hstart
    obtain ⟨host, hhost, rfl⟩ := List.mem_map.1 hstart
    rw [String.toList_append, afterStart?_append, Option.bind_eq_some_iff] at hrest
    obtain ⟨behind, hbehind, hrest⟩ := hrest
    exact ⟨behind, ⟨scheme, hscheme, hbehind⟩, host, hhost, hrest⟩

/-- No host of a shape begins with a host of another. -/
theorem eq_of_isPrefix {shape other : Shape} {host host' : String} (h : host ∈ shape.hosts)
    (h' : host' ∈ other.hosts) (hbegins : host.toList <+: host'.toList) : shape = other := by
  -- the hosts are finitely many, so all pairs can be looked at
  have hall : ∀ host ∈ shape.hosts, ∀ host' ∈ other.hosts,
      host.toList.isPrefixOf host'.toList = true → shape = other := by
    cases shape <;> cases other <;> decide +kernel
  exact hall host h host' h' (List.isPrefixOf_iff_prefix.2 hbegins)

/-- **No address starts like two shapes.** -/
theorem eq_of_afterPrefix? {shape other : Shape} {s rest rest' : List Char}
    (h : shape.afterPrefix? s = some rest) (h' : other.afterPrefix? s = some rest') :
    shape = other := by
  rw [afterPrefix?_eq, Option.bind_eq_some_iff] at h h'
  obtain ⟨behind, hbehind, h⟩ := h
  obtain ⟨behind', hbehind', h'⟩ := h'
  -- the scheme is read alike for all shapes, so it is the hosts that must differ
  obtain rfl : behind = behind' := Option.some.inj (hbehind.symm.trans hbehind')
  obtain ⟨host, hhost, hrest⟩ := afterHost?_eq_some_iff.1 h
  obtain ⟨host', hhost', hrest'⟩ := afterHost?_eq_some_iff.1 h'
  rcases isPrefix_or_isPrefix_of_afterStart? hrest hrest' with hbegins | hbegins
  · exact eq_of_isPrefix hhost hhost' hbegins
  · exact (eq_of_isPrefix hhost' hhost hbegins).symm

end Shape

end VideoPosters.Link
