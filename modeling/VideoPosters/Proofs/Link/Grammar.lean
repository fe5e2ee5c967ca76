import VideoPosters.Proofs.Link.Starts
import VideoPosters.Proofs.Text.Pattern

/-!
# Which addresses lead to which videos

An address of a shape is one of the starts of the shape, in whatever case, then the identifier
of a video, and then nothing or a delimiter with anything behind it.  Each shape is given as a
pattern too.  Matching it never goes back: an option that can be taken is taken, and the run of
the identifier ends at the first delimiter.

## Main definitions

* `Shape.IsAddress` — the addresses of a shape that lead to a video.
* `Shape.pattern` — the pattern of a shape.

## Main results

* `Shape.capture?_eq_some_iff` — the identifier found for a shape is that of such an address.
* `Shape.kept?_ways_pattern` — what the pattern of a shape keeps is what the shape finds.
* `matchFirst?_eq_some_iff` — of some shapes in order, the one that finds an identifier.
* `matchFirst?_eq_match?` — **the shapes exclude each other, and may be tried in any order.**
* `match?_iff_isAddress` — **an address leads to a video just if it is one of a shape.**
-/

namespace VideoPosters.Link

open Text (Pattern Match)
open Text.Pattern (cat)

/-! ### Identifiers and delimiters -/

/-- The characters at which the identifiers of a shape end. -/
def Shape.delimiters : Shape → List Char
  | .standard => ['?', '&', '#']
  | .alternate | .short | .embed => ['/', '?', '&', '#']

/-- Whether an address is one of a shape, and leads to the video with an identifier. -/
def Shape.IsAddress (shape : Shape) (identifier address : List Char) : Prop :=
  ∃ start ∈ shape.starts, ∃ text rest, address = text ++ identifier ++ rest ∧
    Spells text start.toList ∧ identifier ≠ [] ∧ (∀ c ∈ identifier, c ∉ shape.delimiters) ∧
    ∀ c, rest.head? = some c → c ∈ shape.delimiters

namespace Shape

variable {shape : Shape} {s rest identifier : List Char}

theorem isDelimiter_iff {c : Char} : shape.isDelimiter c = true ↔ c ∈ shape.delimiters := by
  cases shape <;> simp [isDelimiter, delimiters, or_assoc]

/-- An identifier goes on to the first delimiter. -/
theorem takeWhile_eq_iff :
    rest.takeWhile (!shape.isDelimiter ·) = identifier ↔
      ∃ behind, rest = identifier ++ behind ∧ (∀ c ∈ identifier, c ∉ shape.delimiters) ∧
        ∀ c, behind.head? = some c → c ∈ shape.delimiters := by
  constructor
  · rintro rfl
    refine ⟨rest.dropWhile (!shape.isDelimiter ·), ?_, fun c hc => ?_, fun c hc => ?_⟩
    · rw [List.takeWhile_append_dropWhile]
    · rw [← isDelimiter_iff]
      simpa using List.all_eq_true.1 List.all_takeWhile c hc
    · rw [← isDelimiter_iff]
      have hfirst := List.head?_dropWhile_not (!shape.isDelimiter ·) rest
      rw [hc] at hfirst
      simpa using hfirst
  · rintro ⟨behind, rfl, hidentifier, hbehind⟩
    have hmem : ∀ c ∈ identifier, (!shape.isDelimiter c) = true := by
      intro c hc
      rw [Bool.not_eq_true', Bool.eq_false_iff, Ne, isDelimiter_iff]
      exact hidentifier c hc
    rw [List.takeWhile_append_of_pos hmem]
    cases behind with
    | nil => simp
    | cons c behind => simp [isDelimiter_iff.2 (hbehind c rfl)]

/-- The identifier behind the start of an address. -/
def identifierAt? (shape : Shape) (s : List Char) : Option (List Char) :=
  if (s.takeWhile (!shape.isDelimiter ·)).isEmpty then none
  else some (s.takeWhile (!shape.isDelimiter ·))

theorem captureChars?_eq (shape : Shape) (s : List Char) :
    shape.captureChars? s = (shape.afterPrefix? s).bind shape.identifierAt? := rfl

/-- The identifier found in an address given as characters. -/
theorem captureChars?_eq_some_iff :
    shape.captureChars? s = some identifier ↔ shape.IsAddress identifier s := by
  rw [captureChars?_eq, Option.bind_eq_some_iff]
  constructor
  · -- a text that starts like the shape has the identifier behind the start
    rintro ⟨rest, hrest, hidentifier⟩
    obtain ⟨start, hstart, text, rfl, htext⟩ := afterPrefix?_eq_some_iff.1 hrest
    rw [identifierAt?, Option.ite_none_left_eq_some, Option.some.injEq] at hidentifier
    obtain ⟨hne, hidentifier⟩ := hidentifier
    rw [hidentifier, List.isEmpty_iff] at hne
    obtain ⟨behind, rfl, hchars, hbehind⟩ := takeWhile_eq_iff.1 hidentifier
    exact ⟨start, hstart, text, behind, by rw [List.append_assoc], htext, hne, hchars, hbehind⟩
  · rintro ⟨start, hstart, text, behind, rfl, htext, hne, hchars, hbehind⟩
    refine ⟨identifier ++ behind, ?_, ?_⟩
    · exact afterPrefix?_eq_some_iff.2 ⟨start, hstart, text, by rw [List.append_assoc], htext⟩
    · rw [identifierAt?, takeWhile_eq_iff.2 ⟨behind, rfl, hchars, hbehind⟩, if_neg]
      rw [List.isEmpty_iff]
      exact hne

/-- **The identifier found for a shape is that of an address of the shape.** -/
theorem capture?_eq_some_iff {address identifier : String} :
    shape.capture? address = some identifier ↔
      shape.IsAddress identifier.toList address.toList := by
  rw [capture?, Option.map_eq_some_iff, ← captureChars?_eq_some_iff]
  constructor
  · rintro ⟨chars, hchars, rfl⟩
    rw [String.toList_ofList]
    exact hchars
  · intro h
    exact ⟨identifier.toList, h, String.ofList_toList⟩

/-- Two shapes that both find an identifier are one. -/
theorem eq_of_capture? {other : Shape} {address identifier identifier' : String}
    (h : shape.capture? address = some identifier)
    (h' : other.capture? address = some identifier') : shape = other := by
  rw [capture?, Option.map_eq_some_iff] at h h'
  obtain ⟨_, h, -⟩ := h
  obtain ⟨_, h', -⟩ := h'
  obtain ⟨rest, hrest, -⟩ := Option.bind_eq_some_iff.1 h
  obtain ⟨rest', hrest', -⟩ := Option.bind_eq_some_iff.1 h'
  exact eq_of_afterPrefix? hrest hrest'

end Shape

/-! ### The patterns of the shapes -/

/-- The pattern of a word in whatever case. -/
def wordPattern (word : List Char) : Pattern := cat (word.map fun p => .one (fold · = p))

/-- The pattern of the identifier of a shape: a run that goes on to a delimiter, kept under the
number 1. -/
def identifierPattern (shape : Shape) : Pattern :=
  .group 1 (.many (!shape.isDelimiter ·))

/-- The pattern of what stands behind the scheme of an address: `(?:www\.)?`, unless the shape
has none, the host and the path, and the identifier. -/
def hostPattern (shape : Shape) : Pattern :=
  if shape.allowsWww then
    .seq (.opt (wordPattern "www.".toList))
      (.seq (wordPattern shape.hostAndPath) (identifierPattern shape))
  else .seq (wordPattern shape.hostAndPath) (identifierPattern shape)

/-- The pattern of a shape: `https?://` and what stands behind the scheme.  It is matched at the
start of an address. -/
def Shape.pattern (shape : Shape) : Pattern :=
  .seq (wordPattern "http".toList) (.seq (.opt (wordPattern ['s']))
    (.seq (wordPattern "://".toList) (hostPattern shape)))

/-- What the preferred one of some ways keeps under the number 1. -/
def kept? (ways : List Match) : Option (List Char) := ways.head?.bind (·.groups.lookup 1)

section

variable {word s : List Char} {q : Pattern}

/-- What keeps nothing does not change what is kept behind it. -/
theorem kept?_map_append {m : Match} (hm : m.groups = []) (ways : List Match) :
    kept? (ways.map m.append) = kept? ways := by
  cases ways <;> simp [kept?, Match.append, hm]

/-- A word can be taken in one way at most. -/
theorem ways_wordPattern (word s : List Char) :
    (wordPattern word).ways s =
      ((afterStart? word s).map fun rest => ⟨s.take word.length, rest, []⟩).toList := by
  induction word generalizing s with
  | nil => simp [wordPattern, cat, Pattern.ways, Match.empty]
  | cons p word ih =>
    cases s with
    | nil => simp [wordPattern, cat, Pattern.ways]
    | cons c s =>
      have hways : (wordPattern (p :: word)).ways (c :: s) =
          (if fold c = p then [(⟨[c], s, []⟩ : Match)] else []).flatMap fun m =>
            ((wordPattern word).ways m.rest).map m.append := by
        simp [wordPattern, cat, Pattern.ways]
      rw [hways, afterStart?_cons_cons]
      -- a character that differs leaves the word no way at all
      split
      · rw [List.flatMap_cons, List.flatMap_nil, List.append_nil, ih]
        cases afterStart? word s <;> simp [Match.append]
      · rfl

theorem ways_word_seq_eq_nil (h : afterStart? word s = none) :
    (Pattern.seq (wordPattern word) q).ways s = [] := by
  rw [Pattern.ways, ways_wordPattern, h]
  rfl

/-- Behind a word goes on what follows it. -/
theorem kept?_word_seq (word s : List Char) (q : Pattern) :
    kept? ((Pattern.seq (wordPattern word) q).ways s) =
      (afterStart? word s).bind fun rest => kept? (q.ways rest) := by
  cases h : afterStart? word s with
  | none =>
    rw [ways_word_seq_eq_nil h]
    rfl
  | some rest =>
    rw [Pattern.ways, ways_wordPattern, h]
    simp only [Option.map_some, Option.toList_some, List.flatMap_cons, List.flatMap_nil,
      List.append_nil, Option.bind_some]
    exact kept?_map_append rfl _

/-- An option is taken if it is there, provided that what follows it cannot stand in its
place. -/
theorem kept?_opt_seq (h : afterStart? word s ≠ none → q.ways s = []) :
    kept? ((Pattern.seq (.opt (wordPattern word)) q).ways s) =
      kept? (q.ways (afterOptional word s)) := by
  rw [Pattern.ways, Pattern.ways, ways_wordPattern, afterOptional]
  cases hword : afterStart? word s with
  | none => simp [Match.empty, kept?_map_append]
  -- the option could be left out too, but then nothing could follow
  | some rest =>
    have hnil : q.ways s = [] := h (by rw [hword]; exact Option.some_ne_none rest)
    simp [Match.empty, hnil, kept?_map_append]

/-- A run that is kept goes on to the first character that is not of the class. -/
theorem kept?_group_many (isMember : Char → Bool) (s : List Char) :
    kept? ((Pattern.group 1 (.many isMember)).ways s) =
      if (s.takeWhile isMember).isEmpty then none else some (s.takeWhile isMember) := by
  have hbehind : ∀ c, (s.dropWhile isMember).head? = some c → isMember c = false := by
    intro c hc
    have hfirst := List.head?_dropWhile_not isMember s
    rw [hc] at hfirst
    simpa using hfirst
  rw [Pattern.ways, Pattern.ways]
  -- a run has each shorter one as another way, and the longest is tried first
  by_cases hne : s.takeWhile isMember = []
  · have hs : s.dropWhile isMember = s := by
      have hsplit := List.takeWhile_append_dropWhile (p := isMember) (l := s)
      rwa [hne, List.nil_append] at hsplit
    rw [hs] at hbehind
    rw [Pattern.runs_eq_nil hbehind, hne]
    rfl
  · obtain ⟨others, hruns, -⟩ := Pattern.runs_append hne
      (List.all_eq_true.1 List.all_takeWhile) hbehind
    rw [List.takeWhile_append_dropWhile] at hruns
    rw [hruns, if_neg (by rwa [List.isEmpty_iff])]
    rfl

end

namespace Shape

/-- What the pattern of a shape keeps behind the scheme. -/
theorem kept?_ways_host (shape : Shape) (s : List Char) :
    kept? ((hostPattern shape).ways s) = (shape.afterHost? s).bind shape.identifierAt? := by
  have hidentifier (s : List Char) : kept? ((identifierPattern shape).ways s) =
      shape.identifierAt? s := kept?_group_many _ s
  obtain ⟨path, hhost⟩ := exists_hostAndPath shape
  have hbehind (s : List Char) : kept?
      ((Pattern.seq (wordPattern shape.hostAndPath) (identifierPattern shape)).ways s) =
        (afterStart? shape.hostAndPath s).bind shape.identifierAt? := by
    rw [kept?_word_seq]
    simp only [hidentifier]
  rw [hostPattern, afterHost?]
  split
  · rw [kept?_opt_seq, hbehind]
    intro hwww
    -- where `www.` stands there is no host
    refine ways_word_seq_eq_nil ?_
    rw [hhost]
    exact afterStart?_eq_none_of_ne (by decide) hwww
  · exact hbehind s

/-- **What the pattern of a shape keeps is what the shape finds.** -/
theorem kept?_ways_pattern (shape : Shape) (s : List Char) :
    kept? (shape.pattern.ways s) = shape.captureChars? s := by
  rw [captureChars?_eq, afterPrefix?_eq, afterScheme?, pattern, kept?_word_seq, Option.bind_assoc,
    Option.bind_assoc]
  congr 1
  funext s
  rw [kept?_opt_seq, kept?_word_seq]
  · simp only [kept?_ways_host]
  · intro hsecure
    -- where an `s` stands there is no colon
    exact ways_word_seq_eq_nil (afterStart?_eq_none_of_ne (by decide) hsecure)

end Shape

/-! ### The shapes in order -/

/-- Of some shapes in order, the one that finds an identifier is found, wherever it stands. -/
theorem matchFirst?_eq_some_iff {address identifier : String} {order : List Shape}
    {shape : Shape} :
    matchFirst? address order = some (shape, identifier) ↔
      shape ∈ order ∧ shape.capture? address = some identifier := by
  induction order with
  | nil => simp [matchFirst?]
  | cons other order ih =>
    rw [matchFirst?, List.mem_cons]
    cases hother : other.capture? address with
    | none =>
      rw [ih]
      constructor
      · exact fun h => ⟨.inr h.1, h.2⟩
      · rintro ⟨rfl | hmem, hshape⟩
        · rw [hother] at hshape
          cases hshape
        · exact ⟨hmem, hshape⟩
    | some found =>
      simp only [Option.some.injEq, Prod.mk.injEq]
      constructor
      · rintro ⟨rfl, rfl⟩
        exact ⟨.inl rfl, hother⟩
      · rintro ⟨-, hshape⟩
        -- no shape behind the first finds anything
        obtain rfl := Shape.eq_of_capture? hother hshape
        exact ⟨rfl, Option.some.inj (hother.symm.trans hshape)⟩

theorem Shape.mem_all (shape : Shape) : shape ∈ Shape.all := by
  cases shape <;> decide

/-- **The shapes exclude each other.**  Two shapes that find an identifier in an address are one
and find the same.  So the shapes may be tried in any order that has all of them, and the
identifier of a link is the one that any shape finds in its address. -/
theorem matchFirst?_eq_match? (address : String) :
    (∀ (shape other : Shape) (identifier identifier' : String),
      shape.capture? address = some identifier → other.capture? address = some identifier' →
        shape = other ∧ identifier = identifier') ∧
    (∀ order : List Shape, (∀ shape, shape ∈ order) →
      matchFirst? address order = match? address) ∧
    ∀ (link : Link) (identifier : String), link.href = address →
      (link.videoId? = some identifier ↔
        ∃ shape : Shape, shape.capture? address = some identifier) := by
  refine ⟨?_, fun order hall => ?_, ?_⟩
  · intro shape other identifier identifier' h h'
    obtain rfl := Shape.eq_of_capture? h h'
    exact ⟨rfl, Option.some.inj (h.symm.trans h')⟩
  · refine Option.ext fun ⟨shape, identifier⟩ => ?_
    rw [match?, matchFirst?_eq_some_iff, matchFirst?_eq_some_iff]
    simp only [hall shape, shape.mem_all]
  · rintro link identifier rfl
    rw [videoId?, match?, Option.map_eq_some_iff]
    constructor
    · rintro ⟨⟨shape, _⟩, hfound, rfl⟩
      exact ⟨shape, (matchFirst?_eq_some_iff.1 hfound).2⟩
    · rintro ⟨shape, hshape⟩
      exact ⟨(shape, identifier), matchFirst?_eq_some_iff.2 ⟨shape.mem_all, hshape⟩, rfl⟩

/-- A short address whose identifier looks like the path of another shape, with the shapes tried
from the last to the first and one of them twice. -/
theorem matchFirst?_eq_match?_backwards :
    let address := "https://youtu.be/embed?v=b"
    let order := [.embed, .short, .embed, .alternate, .standard]
    Shape.short.capture? address = some "embed" ∧
    matchFirst? address order = match? address ∧
    (ofHref address).videoId? = some "embed" ∧
    ∀ other : Shape, ∀ identifier, other.capture? address = some identifier →
      other = .short ∧ identifier = "embed" := by
  intro address order
  have hshort : Shape.short.capture? address = some "embed" := by decide +kernel
  obtain ⟨hunique, horder, hlink⟩ := matchFirst?_eq_match? address
  refine ⟨hshort, horder order ?_, (hlink (ofHref address) "embed" rfl).2 ⟨.short, hshort⟩, ?_⟩
  · intro shape
    cases shape <;> decide
  · intro other identifier hother
    exact hunique other .short identifier "embed" hother hshort

/-- **An address leads to a video just if it is one of a shape.**  The shape and the identifier
that are found are those of the address, and nothing is found in any other text.  For each
shape this is what its pattern keeps.  Without a delimiter in it, an identifier is found behind
every start of every shape in whatever case, whatever follows behind a delimiter. -/
theorem match?_iff_isAddress (address : String) :
    (∀ shape identifier, match? address = some (shape, identifier) ↔
      shape.IsAddress identifier.toList address.toList) ∧
    (match? address = none ↔
      ∀ (shape : Shape) (identifier : List Char),
        ¬ shape.IsAddress identifier address.toList) ∧
    (∀ shape : Shape, (shape.capture? address).map String.toList =
      kept? (shape.pattern.ways address.toList)) ∧
    ∀ identifier : String, identifier ≠ "" →
      (∀ c ∈ identifier.toList, c ∉ ['/', '?', '&', '#']) →
      ∀ shape : Shape, ∀ start ∈ shape.starts, ∀ text rest, Spells text start.toList →
        (∀ c, rest.head? = some c → c ∈ shape.delimiters) →
        match? (String.ofList (text ++ identifier.toList ++ rest)) = some (shape, identifier) := by
  have hmatch (address : String) (shape : Shape) (identifier : String) :
      match? address = some (shape, identifier) ↔
        shape.IsAddress identifier.toList address.toList := by
    rw [match?, matchFirst?_eq_some_iff, Shape.capture?_eq_some_iff]
    exact and_iff_right shape.mem_all
  refine ⟨hmatch address, ?_, fun shape => ?_, ?_⟩
  · constructor
    · intro hnone shape identifier haddress
      rw [← String.toList_ofList (l := identifier), ← hmatch, hnone] at haddress
      cases haddress
    · intro hno
      rw [Option.eq_none_iff_forall_ne_some]
      rintro ⟨shape, identifier⟩ hsome
      exact hno shape _ ((hmatch address shape identifier).1 hsome)
  · rw [Shape.kept?_ways_pattern, Shape.capture?, Option.map_map]
    cases shape.captureChars? address.toList with
    | none => rfl
    | some chars => exact congrArg some String.toList_ofList
  · intro identifier hne hchars shape start hstart text rest htext hrest
    rw [hmatch, String.toList_ofList]
    refine ⟨start, hstart, text, rest, rfl, htext, ?_, fun c hc hdelimiter => ?_, hrest⟩
    · exact fun hnil => hne (String.toList_eq_nil_iff.1 hnil)
    · -- the delimiters of each shape are among the four
      refine hchars c hc ?_
      cases shape with
      | standard => exact List.mem_cons_of_mem '/' hdelimiter
      | alternate | short | embed => exact hdelimiter

/-- A long s and capitals in the start, a line break in the identifier, and a delimiter with
another address behind it. -/
theorem match?_iff_isAddress_folded :
    Spells "HTTP\u017F://wWw.YouTube.COM/eMBED/".toList "https://www.youtube.com/embed/".toList ∧
    match? "HTTP\u017F://wWw.YouTube.COM/eMBED/a\nB=?https://youtu.be/c" =
      some (.embed, "a\nB=") := by
  have hstart : "https://www.youtube.com/embed/" ∈ Shape.embed.starts := by decide
  have hspells : Spells "HTTP\u017F://wWw.YouTube.COM/eMBED/".toList
      "https://www.youtube.com/embed/".toList :=
    (spells_iff (Shape.toNat_lt_of_mem_starts hstart)).2 (by decide +kernel)
  have hchars : ∀ c ∈ "a\nB=".toList, c ∉ ['/', '?', '&', '#'] := by simp
  have hrest : ∀ c, "?https://youtu.be/c".toList.head? = some c → c ∈ Shape.embed.delimiters := by
    have hhead : "?https://youtu.be/c".toList.head? = some '?' := by decide +kernel
    intro c hc
    rw [hhead] at hc
    rw [← Option.some.inj hc]
    decide
  obtain ⟨-, -, -, hfound⟩ := match?_iff_isAddress ""
  refine ⟨hspells, ?_⟩
  exact hfound "a\nB=" (by decide) hchars .embed "https://www.youtube.com/embed/"
    hstart _ "?https://youtu.be/c".toList hspells hrest

end VideoPosters.Link
