/-!
# Patterns, and what they find in a text

A pattern may match in many ways.  Which of them is found is a matter of preference: the one
that starts first, and of those that start at one place the one that is met first when the
choices of the pattern are tried from left to right, where a run of characters is rather longer
than shorter and an option is rather taken than left out.  A search that goes back whenever it
cannot go on meets the ways in this order.

## Main definitions

* `Pattern` — the patterns.
* `Match` — a way in which a pattern matches at the start of a text.
* `Pattern.ways` — all ways at the start of a text, those that are preferred first.
* `Pattern.find?` — the match that is found in a text.
* `Pattern.Prefers` — the way that comes first.

## Main results

* `Prefers.seq` — **the preferred ways of two patterns make up the preferred way of both**: if
  the second pattern can go on behind the preferred way of the first, no search goes back.
* `Prefers.find?_append` — what is found behind a text in which the pattern cannot start.
-/

namespace VideoPosters.Text

/-- A pattern. -/
inductive Pattern where
  /-- The pattern that takes nothing. -/
  | nothing
  /-- One character of a class. -/
  | one (isMember : Char → Bool)
  /-- A run of characters of a class, one at least and rather more than fewer. -/
  | many (isMember : Char → Bool)
  /-- One pattern after another. -/
  | seq (first second : Pattern)
  /-- Rather the pattern than nothing. -/
  | opt (p : Pattern)
  /-- A pattern whose text is kept under a number. -/
  | group (number : Nat) (p : Pattern)

/-- A way in which a pattern matches at the start of a text. -/
structure Match where
  /-- The text that is matched. -/
  taken : List Char
  /-- The text behind it. -/
  rest : List Char
  /-- The texts of the groups that take part. -/
  groups : List (Nat × List Char)
  deriving DecidableEq, Repr

namespace Match

/-- The way that takes nothing of a text. -/
def empty (s : List Char) : Match := ⟨[], s, []⟩

/-- A way that takes one more character in front. -/
def cons (c : Char) (m : Match) : Match := { m with taken := c :: m.taken }

/-- One way after another. -/
def append (m m' : Match) : Match := ⟨m.taken ++ m'.taken, m'.rest, m.groups ++ m'.groups⟩

/-- A way whose text is kept under a number. -/
def keep (number : Nat) (m : Match) : Match :=
  { m with groups := (number, m.taken) :: m.groups }

@[simp] theorem rest_keep (number : Nat) (m : Match) : (m.keep number).rest = m.rest := rfl

@[simp] theorem append_empty (m : Match) : m.append (empty m.rest) = m := by
  simp [append, empty]

theorem append_assoc (a b c : Match) : (a.append b).append c = a.append (b.append c) := by
  simp [append]

end Match

namespace Pattern

/-- The runs of characters of a class at the start of a text, the longest first. -/
def runs (isMember : Char → Bool) : List Char → List Match
  | [] => []
  | c :: s => if isMember c then (runs isMember s).map (.cons c) ++ [⟨[c], s, []⟩] else []

/-- The ways in which a pattern matches at the start of a text, those that are preferred
first. -/
def ways : Pattern → List Char → List Match
  | .nothing, s => [.empty s]
  | .one _, [] => []
  | .one isMember, c :: s => if isMember c then [⟨[c], s, []⟩] else []
  | .many isMember, s => runs isMember s
  | .seq p q, s => (p.ways s).flatMap fun m => (q.ways m.rest).map m.append
  | .opt p, s => p.ways s ++ [.empty s]
  | .group number p, s => (p.ways s).map (.keep number)

/-- The match that is found in a text: the preferred one of those that start first. -/
def find? (p : Pattern) : List Char → Option Match
  | [] => (p.ways []).head?
  | c :: s =>
    match p.ways (c :: s) with
    | m :: _ => some m
    | [] => p.find? s

/-- The pattern of one character. -/
def char (c : Char) : Pattern := .one (· = c)

/-- A run gives characters back if the pattern cannot go on otherwise. -/
example : (seq (many Char.isDigit) (char '1')).find? ['a', '2', '1', '1', '3'] =
    some ⟨['2', '1', '1'], ['3'], []⟩ := by
  decide

/-- Patterns one after the other. -/
def cat : List Pattern → Pattern
  | [] => .nothing
  | p :: ps => .seq p (cat ps)

/-- Whether a way comes first. -/
def Prefers (p : Pattern) (s : List Char) (m : Match) : Prop := ∃ others, p.ways s = m :: others

/-! ### Preferred ways -/

variable {p q : Pattern} {s : List Char} {m m' : Match}

theorem prefers_nothing (s : List Char) : Prefers .nothing s (.empty s) := ⟨[], rfl⟩

theorem prefers_char (c : Char) (s : List Char) : Prefers (char c) (c :: s) ⟨[c], s, []⟩ :=
  ⟨[], by simp [char, ways]⟩

/-- The preferred ways of two patterns make up the preferred way of both. -/
theorem Prefers.seq (h : p.Prefers s m) (h' : q.Prefers m.rest m') :
    (Pattern.seq p q).Prefers s (m.append m') := by
  obtain ⟨others, hways⟩ := h
  obtain ⟨others', hways'⟩ := h'
  refine ⟨others'.map m.append ++ others.flatMap fun m => (q.ways m.rest).map m.append, ?_⟩
  rw [ways, hways, List.flatMap_cons, hways', List.map_cons, List.cons_append]

/-- An option is taken if it can be. -/
theorem Prefers.opt (h : p.Prefers s m) : (Pattern.opt p).Prefers s m := by
  obtain ⟨others, hways⟩ := h
  exact ⟨others ++ [.empty s], by rw [ways, hways, List.cons_append]⟩

/-- An option that cannot be taken is left out. -/
theorem prefers_opt_of_ways_eq_nil (h : p.ways s = []) : (Pattern.opt p).Prefers s (.empty s) :=
  ⟨[], by rw [ways, h, List.nil_append]⟩

/-- What is found behind a text in which the pattern cannot start. -/
theorem Prefers.find?_append (h : p.Prefers s m) {u : List Char}
    (hu : ∀ c ∈ u, ∀ t, p.ways (c :: t) = []) : p.find? (u ++ s) = some m := by
  induction u with
  | nil =>
    obtain ⟨others, hways⟩ := h
    cases s with
    | nil => rw [List.nil_append, find?, hways, List.head?_cons]
    | cons c s => simp only [List.nil_append, find?, hways]
  | cons c u ih =>
    have hfirst : p.ways (c :: (u ++ s)) = [] := hu c List.mem_cons_self (u ++ s)
    have hrest := ih fun d hd => hu d (List.mem_cons_of_mem c hd)
    simp only [List.cons_append, find?, hfirst, hrest]

/-- Nothing is found in a text in which the pattern cannot start. -/
theorem find?_eq_none (hnil : p.ways [] = []) (hs : ∀ c ∈ s, ∀ t, p.ways (c :: t) = []) :
    p.find? s = none := by
  induction s with
  | nil => rw [find?, hnil, List.head?_nil]
  | cons c s ih =>
    have hfirst : p.ways (c :: s) = [] := hs c List.mem_cons_self s
    have hrest := ih fun d hd => hs d (List.mem_cons_of_mem c hd)
    simp only [find?, hfirst, hrest]

/-! ### A run of characters before a character of another kind -/

variable {isMember : Char → Bool} {run : List Char}

theorem runs_eq_nil (h : ∀ c, s.head? = some c → isMember c = false) : runs isMember s = [] := by
  cases s with
  | nil => rfl
  | cons c s => simp [runs, h c rfl]

/-- The longest run goes on to the first character that is not of the class; behind all others
stands one that is. -/
theorem runs_append (hne : run ≠ []) (hrun : ∀ c ∈ run, isMember c = true)
    (hs : ∀ c, s.head? = some c → isMember c = false) :
    ∃ others, runs isMember (run ++ s) = ⟨run, s, []⟩ :: others ∧
      ∀ m ∈ others, ∃ c t, m.rest = c :: t ∧ isMember c = true := by
  induction run with
  | nil => exact absurd rfl hne
  | cons c run ih =>
    have hc : isMember c = true := hrun c List.mem_cons_self
    have hrun' : ∀ d ∈ run, isMember d = true := fun d hd => hrun d (List.mem_cons_of_mem c hd)
    rw [List.cons_append, runs, if_pos hc]
    by_cases hempty : run = []
    · subst hempty
      rw [List.nil_append, runs_eq_nil hs]
      exact ⟨[], rfl, by simp⟩
    · obtain ⟨others, hruns, hothers⟩ := ih hempty hrun'
      refine ⟨others.map (.cons c) ++ [⟨[c], run ++ s, []⟩], ?_, ?_⟩
      · rw [hruns]
        rfl
      · intro m hm
        rcases List.mem_append.1 hm with hm | hm
        · obtain ⟨m', hm', rfl⟩ := List.mem_map.1 hm
          exact hothers m' hm'
        · -- the run of the one character stops before the others
          rw [List.mem_singleton.1 hm]
          cases run with
          | nil => exact absurd rfl hempty
          | cons d run => exact ⟨d, run ++ s, rfl, hrun' d List.mem_cons_self⟩

/-- A run that is kept and a character of another kind: the whole run is taken or nothing is. -/
theorem ways_group_many_char (number : Nat) {unit : Char} (hunit : isMember unit = false)
    (hne : run ≠ []) (hrun : ∀ c ∈ run, isMember c = true)
    (hs : ∀ c, s.head? = some c → isMember c = false) :
    (Pattern.seq (.group number (.many isMember)) (char unit)).ways (run ++ s) =
      ((char unit).ways s).map (Match.append ⟨run, s, [(number, run)]⟩) := by
  obtain ⟨others, hruns, hothers⟩ := runs_append hne hrun hs
  -- behind a shorter run stands a member of the class, which the unit is not
  have hshorter : (others.map (Match.keep number)).flatMap
      (fun m => ((char unit).ways m.rest).map m.append) = [] := by
    rw [List.flatMap_eq_nil_iff]
    intro m hm
    obtain ⟨m', hm', rfl⟩ := List.mem_map.1 hm
    obtain ⟨c, t, hrest, hc⟩ := hothers m' hm'
    have hne : c ≠ unit := by
      intro h
      rw [h, hunit] at hc
      cases hc
    simp [hrest, char, ways, hne]
  rw [ways, ways, ways, hruns, List.map_cons, List.flatMap_cons, hshorter, List.append_nil]
  rfl

/-- Without a run there is no way. -/
theorem ways_group_many_seq_eq_nil {number : Nat}
    (hs : ∀ c, s.head? = some c → isMember c = false) :
    (Pattern.seq (.group number (.many isMember)) q).ways s = [] := by
  rw [ways, ways, ways, runs_eq_nil hs, List.map_nil, List.flatMap_nil]

end Pattern

end VideoPosters.Text
