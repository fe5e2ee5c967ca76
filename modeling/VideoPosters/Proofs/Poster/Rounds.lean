import VideoPosters.Proofs.Poster.Attempt

/-!
# Making posters takes so many looks

If it is laid down after how many looks in vain each part is there, then looking again and
again comes to what `makePosters` says: to its outcome, in its number of looks, with its deeds.

## Main definitions

* `Delayed.at?` — what is there of a delayed outcome at a look.
* `Sources.looks` — the first looks at some sources.

## Main results

* `Delayed.of_lt_rounds_both`, `Delayed.at?_of_both_eq_error` — when two things that are waited
  for come to an end, and how.
* `makePosters_eq_run` — **making posters is an attempt that is looked after until it is over.**
-/

namespace VideoPosters

namespace Delayed

variable {ε α β : Type}

/-- What is there of a delayed outcome at a look. -/
def at? (d : Delayed α) (k : Nat) : Option α := if d.rounds ≤ k then some d.outcome else none

theorem at?_map (f : α → β) (d : Delayed α) (k : Nat) : (d.map f).at? k = (d.at? k).map f := by
  rw [at?, at?, apply_ite (Option.map f), Option.map_some, Option.map_none]
  rfl

theorem at?_of_le {d : Delayed α} {k : Nat} (h : d.rounds ≤ k) : d.at? k = some d.outcome :=
  if_pos h

theorem at?_of_lt {d : Delayed α} {k : Nat} (h : k < d.rounds) : d.at? k = none :=
  if_neg (Nat.not_le_of_gt h)

theorem rounds_le_of_at? {d : Delayed α} {k : Nat} {a : α} (h : d.at? k = some a) :
    d.rounds ≤ k := by
  rw [at?] at h
  split at h
  · next hle => exact hle
  · cases h

theorem lt_rounds_of_at? {d : Delayed α} {k : Nat} (h : d.at? k = none) : k < d.rounds := by
  rw [at?] at h
  split at h
  · cases h
  · next hle => exact Nat.lt_of_not_le hle

/-- What is there stays there. -/
theorem at?_mono {d : Delayed α} {j k : Nat} {a : α} (h : d.at? j = some a) (hle : j ≤ k) :
    d.at? k = some a := by
  have hrounds := rounds_le_of_at? h
  rw [at?_of_le hrounds] at h
  rw [at?_of_le (Nat.le_trans hrounds hle), h]

variable {first : Delayed (Except ε α)} {second : Delayed (Except ε β)} {k : Nat}

/-- Before the end nothing has failed, and something is not there yet. -/
theorem of_lt_rounds_both (h : k < (first.both second).rounds) :
    (∀ e, first.at? k ≠ some (.error e)) ∧ (∀ e, second.at? k ≠ some (.error e)) ∧
      (first.at? k = none ∨ second.at? k = none) := by
  obtain ⟨m, x⟩ := first
  -- the earlier failure ends it, or else the later of the two
  obtain ⟨n, y⟩ := second
  cases x with
  | error e => cases y <;> grind [both, at?]
  | ok a => cases y <;> grind [both, at?]

/-- Where both succeed they are there at the end. -/
theorem at?_of_both_eq_ok {a : α} {b : β} (h : (first.both second).outcome = .ok (a, b)) :
    first.at? (first.both second).rounds = some (.ok a) ∧
      second.at? (first.both second).rounds = some (.ok b) := by
  obtain ⟨m, x⟩ := first
  obtain ⟨n, y⟩ := second
  cases x with
  | error e => cases y <;> grind [both]
  | ok a => cases y <;> grind [both, at?]

/-- Where both do not succeed the end is the first failure, and of two in one round it is that
of the first part. -/
theorem at?_of_both_eq_error {e : ε} (h : (first.both second).outcome = .error e) :
    first.at? (first.both second).rounds = some (.error e) ∨
      (∀ f, first.at? (first.both second).rounds ≠ some (.error f)) ∧
        second.at? (first.both second).rounds = some (.error e) := by
  obtain ⟨m, x⟩ := first
  obtain ⟨n, y⟩ := second
  cases x with
  | error e => cases y <;> grind [both, at?]
  | ok a => cases y <;> grind [both, at?]

/-- The first part is carried through if it is there at the end. -/
theorem isReached_iff : first.isReached second = true ↔
    first.rounds ≤ (first.both second).rounds := by
  obtain ⟨m, x⟩ := first
  obtain ⟨n, y⟩ := second
  cases x with
  | error e => cases y <;> grind [both, isReached]
  | ok a => cases y <;> grind [both, isReached]

/-- The second part is begun unless the first look finds that the first has failed. -/
theorem isAsked_eq_false_iff : first.isAsked = false ↔ ∃ e, first.at? 0 = some (.error e) := by
  obtain ⟨m, x⟩ := first
  cases x <;> grind [isAsked, at?]

end Delayed

/-! ### Looks at sources -/

namespace Sources

variable (sources : Sources)

/-- What some sources have brought by the time of a look. -/
def moment (k : Nat) : Moment where
  text? path := (sources.template path).at? k
  videos? ids := (sources.videos ids).at? k

/-- The first looks at some sources. -/
def looks (n : Nat) : List Attempt.Act := (List.range n).map fun k => .look (sources.moment k)

/-- The posters that are made from some sources. -/
def wish (refusal? : Nat → Option String) (options : Options) (links : List Link) (count : Nat) :
    Wish := ⟨sources.embedded?, refusal?, options, links, count⟩

end Sources

namespace AwaitedTemplate

/-- What the template comes to at a look. -/
def part (t : AwaitedTemplate) (k : Nat) : Except Failure (Awaited String (List Template.Token)) :=
  Awaited.settle (t.path.getD "") (t.tokens.at? k)

/-- The shelf at a look. -/
def shelfAt (t : AwaitedTemplate) (k : Nat) : Template.Shelf :=
  if t.tokens.rounds ≤ k then t.after else t.before

end AwaitedTemplate

/-- The attempt at a look, before both parts are dealt with. -/
def AwaitedTemplate.toAttempt (t : AwaitedTemplate) (w : Wish) (k : Nat) : Attempt where
  shelf := t.shelfAt k
  phase := .fresh
  fetched := t.path.toList
  asked := if t.tokens.isAsked then [videoIds w.links] else []
  deeds := []

/-- How a template that is waited for starts out. -/
inductive Prepared (sources : Sources) (shelf : Template.Shelf) :
    Awaited String (List Template.Token) → AwaitedTemplate → Prop where
  | ready (tokens : List Template.Token) :
      Prepared sources shelf (.there tokens) ⟨none, .now (.ok tokens), shelf, shelf⟩
  | fetch (path : String) :
      Prepared sources shelf (.idle path) ⟨some path,
        (sources.template path).map fun outcome =>
          (shelf.receive path outcome).1.map (·.tokens),
        shelf, (shelf.receive path (sources.template path).outcome).2⟩

section

variable {sources : Sources} {shelf : Template.Shelf} {t : AwaitedTemplate}
  {start part : Awaited String (List Template.Token)} {k : Nat}

theorem Prepared.of_choose {w : Wish} (hembedded : w.embedded? = sources.embedded?)
    {shelf' : Template.Shelf} (h : w.choose shelf = (.ok start, shelf')) :
    ∃ t, awaitTemplate sources shelf w.options.template = (.ok t, shelf') ∧
      Prepared sources shelf' start t := by
  rw [Wish.choose, hembedded] at h
  revert h
  cases w.options.template with
  | compiled tokens =>
    intro h
    cases h
    exact ⟨_, rfl, .ready tokens⟩
  | specifier spec =>
    dsimp only [awaitTemplate]
    rcases shelf.resolve sources.embedded? spec with ⟨_ | template | path, _⟩ <;> intro h
    · cases h
    · cases h
      exact ⟨_, rfl, .ready _⟩
    · cases h
      exact ⟨_, rfl, .fetch path⟩

theorem awaitTemplate_of_choose {w : Wish} (hembedded : w.embedded? = sources.embedded?)
    {e : Failure} {shelf' : Template.Shelf} (h : w.choose shelf = (.error e, shelf')) :
    awaitTemplate sources shelf w.options.template = (.error e, shelf') := by
  rw [Wish.choose, hembedded] at h
  revert h
  -- a compiled template needs no choice
  cases w.options.template with
  | compiled tokens =>
    intro h
    cases h
  | specifier spec =>
    dsimp only [awaitTemplate]
    rcases shelf.resolve sources.embedded? spec with ⟨_ | template | path, _⟩ <;> intro h <;>
      cases h
    rfl

/-- What has arrived at a look of the template at a path. -/
theorem template?_moment (path : String) (k : Nat) :
    Wish.template? (sources.moment k) shelf path =
      ((sources.template path).map fun outcome =>
        (shelf.receive path outcome).1.map (·.tokens)).at? k := by
  rw [Delayed.at?_map]
  rfl

/-- The shelf after a look for the template at a path. -/
theorem shelfAfter_moment {path : String} (hkey : part.key? = some path) (k : Nat) :
    Wish.shelfAfter (sources.moment k) part shelf =
      if (sources.template path).rounds ≤ k then
        (shelf.receive path (sources.template path).outcome).2
      else shelf := by
  rw [Wish.shelfAfter, hkey, Option.bind_some]
  show (((sources.template path).at? k).map _).getD shelf = _
  split
  · next h => rw [Delayed.at?_of_le h, Option.map_some, Option.getD_some]
  · next h => rw [Delayed.at?_of_lt (Nat.lt_of_not_le h), Option.map_none, Option.getD_none]

namespace Prepared

theorem look_start (h : Prepared sources shelf start t) (k : Nat) :
    start.look (Wish.template? (sources.moment k) shelf) = t.part k := by
  cases h with
  | ready tokens => rw [AwaitedTemplate.part, Delayed.at?_of_le (Nat.zero_le k)]; rfl
  | fetch path => rw [Awaited.look_of_key? rfl, template?_moment]; rfl

theorem shelfAfter_start (h : Prepared sources shelf start t) (k : Nat) :
    Wish.shelfAfter (sources.moment k) start shelf = t.shelfAt k := by
  cases h with
  | ready tokens => exact (ite_self _).symm
  | fetch path => exact shelfAfter_moment rfl k

theorem beginning_start (h : Prepared sources shelf start t) : start.beginning = t.path.toList := by
  cases h with
  | ready tokens => rfl
  | fetch path => rfl

/-- At the next look a template that has not failed comes to what it comes to then. -/
theorem look_next (h : Prepared sources shelf start t) (hpart : t.part k = .ok part) :
    part.look (Wish.template? (sources.moment (k + 1)) (t.shelfAt k)) = t.part (k + 1) ∧
      Wish.shelfAfter (sources.moment (k + 1)) part (t.shelfAt k) = t.shelfAt (k + 1) ∧
      part.beginning = [] := by
  rw [AwaitedTemplate.part] at hpart ⊢
  -- what has arrived stays, and what has not is looked for again
  cases harrived : t.tokens.at? k with
  | some outcome =>
    have hle := Delayed.rounds_le_of_at? harrived
    rw [harrived] at hpart
    cases outcome with
    | error e => cases hpart
    | ok tokens =>
      cases hpart
      rw [Delayed.at?_mono harrived (Nat.le_succ k), AwaitedTemplate.shelfAt,
        AwaitedTemplate.shelfAt, if_pos hle, if_pos (Nat.le_succ_of_le hle)]
      exact ⟨rfl, rfl, rfl⟩
  | none =>
    rw [harrived] at hpart
    have hlt := Delayed.lt_rounds_of_at? harrived
    cases hpart
    cases h with
    | ready tokens => cases harrived
    | fetch path =>
      rw [AwaitedTemplate.shelfAt, if_neg (Nat.not_le_of_gt hlt)]
      refine ⟨?_, shelfAfter_moment rfl (k + 1), rfl⟩
      rw [Awaited.look_of_key? rfl]
      exact congrArg _ (template?_moment path (k + 1))

end Prepared

end

/-- At the next look something that has not failed comes to what it comes to then. -/
theorem Awaited.look_next {κ α : Type} {key : κ} {d : Delayed (Except Failure α)} {k : Nat}
    {part : Awaited κ α} (hpart : settle key (d.at? k) = .ok part)
    {arrival? : κ → Option (Except Failure α)} (harrival : arrival? key = d.at? (k + 1)) :
    part.look arrival? = settle key (d.at? (k + 1)) ∧ part.beginning = [] := by
  cases harrived : d.at? k with
  | none =>
    rw [harrived] at hpart
    cases hpart
    exact ⟨congrArg (settle key) harrival, rfl⟩
  | some outcome =>
    rw [harrived] at hpart
    cases outcome with
    | error e => cases hpart
    | ok value =>
      cases hpart
      rw [Delayed.at?_mono harrived (Nat.le_succ k)]
      exact ⟨rfl, rfl⟩

theorem Awaited.exists_of_settle_eq_error {κ α : Type} {key : κ}
    {arrived : Option (Except Failure α)} {e : Failure} (h : settle key arrived = .error e) :
    ∃ e, arrived = some (.error e) := by
  cases arrived with
  | none => cases h
  | some outcome =>
    cases outcome with
    | error e => exact ⟨e, rfl⟩
    | ok value => cases h

/-- What has not failed is there, or has begun. -/
theorem Awaited.exists_settle {κ α : Type} (key : κ) {arrived : Option (Except Failure α)}
    (h : ∀ e, arrived ≠ some (.error e)) :
    ∃ part, settle key arrived = .ok part ∧ (arrived = none → part = .begun key) := by
  cases arrived with
  | none => exact ⟨_, rfl, fun _ => rfl⟩
  | some outcome =>
    cases outcome with
    | error e => exact absurd rfl (h e)
    | ok value => exact ⟨_, rfl, fun h => nomatch h⟩

/-! ### The rounds of an attempt -/

namespace Attempt

/-- An attempt after a look, by what both parts have come to. -/
def settled (w : Wish) (template : Except Failure (Awaited String (List Template.Token)))
    (videos : Except Failure (Awaited (List String) (List LinkedVideo))) (s : Attempt) : Attempt :=
  match template, videos with
  | .error e, _ => s.fail e
  | .ok _, .error e => s.fail e
  | .ok template, .ok videos => s.goOn w template videos

/-- It does not matter how far the attempt had come. -/
theorem settled_phase (w : Wish)
    (template : Except Failure (Awaited String (List Template.Token)))
    (videos : Except Failure (Awaited (List String) (List LinkedVideo))) (phase : Phase)
    (s : Attempt) : settled w template videos { s with phase } = settled w template videos s := by
  cases template with
  | error e => rfl
  | ok template =>
    cases videos with
    | error e => rfl
    | ok videos => cases template <;> cases videos <;> rfl

/-- A look at which the metadata has begun already. -/
theorem lookAfter_eq_settled (w : Wish) (moment : Moment)
    (template : Awaited String (List Template.Token))
    {videos : Awaited (List String) (List LinkedVideo)} (hvideos : videos.beginning = [])
    (s : Attempt) : s.lookAfter w moment template videos =
      settled w (template.look (Wish.template? moment s.shelf)) (videos.look (w.videos? moment))
        (s.lookForTemplate moment template) := by
  -- the list of what was asked for does not grow any more
  have hsame : ∀ s : Attempt, s.lookForVideos videos = s := fun s => by
    rw [lookForVideos, hvideos, List.append_nil]
  rw [lookAfter]
  simp only [hsame]
  cases template.look (Wish.template? moment s.shelf) with
  | error e => rfl
  | ok template =>
    cases videos.look (w.videos? moment) with
    | error e => rfl
    | ok videos => rfl

section

variable {w : Wish} {sources : Sources} {shelf shelf' : Template.Shelf} {t : AwaitedTemplate}
  {start : Awaited String (List Template.Token)} {k : Nat}

/-- The videos of the links of a wish, from some sources. -/
def videosOf (sources : Sources) (w : Wish) : Delayed (Except Failure (List LinkedVideo)) :=
  (sources.linkedVideos w.links).toDelayed

/-- What the videos come to at a look. -/
def videosPart (sources : Sources) (w : Wish) (k : Nat) :
    Except Failure (Awaited (List String) (List LinkedVideo)) :=
  Awaited.settle (videoIds w.links) ((videosOf sources w).at? k)

theorem videos?_moment (k : Nat) :
    w.videos? (sources.moment k) (videoIds w.links) = (videosOf sources w).at? k :=
  (Delayed.at?_map _ _ _).symm


/-- The first look begins the metadata unless the template has failed. -/
theorem first_look (hchoose : w.choose shelf = (.ok start, shelf'))
    (h : Prepared sources shelf' start t) :
    (Attempt.start shelf).look w (sources.moment 0) = settled w (t.part 0) (videosPart sources w 0)
      (t.toAttempt w 0) := by
  -- the first look turns to the template before it turns to the metadata
  have htemplate : ({ Attempt.start shelf with shelf := shelf' } : Attempt).lookForTemplate
      (sources.moment 0) start = ⟨t.shelfAt 0, .fresh, t.path.toList, [], []⟩ := by
    rw [← h.shelfAfter_start, ← h.beginning_start]
    rfl
  have hvideos : (Awaited.idle (videoIds w.links)).look (w.videos? (sources.moment 0)) =
      videosPart sources w 0 := by
    rw [Awaited.look_of_key? rfl, videos?_moment]
    rfl
  rw [look_fresh_ok rfl hchoose, lookAfter, hvideos, h.look_start]
  simp only [htemplate]
  cases hpart : t.part 0 with
  | error e =>
    -- a template that has failed keeps the metadata from being asked for
    have hasked : t.tokens.isAsked = false := by
      rw [Delayed.isAsked_eq_false_iff]
      exact Awaited.exists_of_settle_eq_error hpart
    rw [AwaitedTemplate.toAttempt, hasked]
    rfl
  | ok part =>
    have hasked : t.tokens.isAsked = true := by
      rw [← Bool.not_eq_false, Delayed.isAsked_eq_false_iff]
      rintro ⟨e, he⟩
      rw [AwaitedTemplate.part, he] at hpart
      cases hpart
    rw [AwaitedTemplate.toAttempt, hasked]
    cases videosPart sources w 0 with
    | error e => rfl
    | ok videos => rfl

/-- Until an attempt is over every look finds what has come to be by then. -/
theorem next_look (h : Prepared sources shelf' start t)
    (hlt : k < (t.tokens.both (videosOf sources w)).rounds) :
    (settled w (t.part k) (videosPart sources w k)
        (t.toAttempt w k)).look w (sources.moment (k + 1)) =
      settled w (t.part (k + 1)) (videosPart sources w (k + 1)) (t.toAttempt w (k + 1)) := by
  -- nothing has failed yet, so both parts are begun or there, and one of them has only begun
  obtain ⟨htemplate, hvideos, hnone⟩ := Delayed.of_lt_rounds_both hlt
  obtain ⟨part, hpart, hbegun⟩ := Awaited.exists_settle (t.path.getD "") htemplate
  obtain ⟨videos, hpart', hbegun'⟩ := Awaited.exists_settle (videoIds w.links) hvideos
  have hwaits : (∃ path, part = .begun path) ∨ ∃ ids, videos = .begun ids :=
    hnone.imp (fun h => ⟨_, hbegun h⟩) fun h => ⟨_, hbegun' h⟩
  obtain ⟨hlook, hshelf, hbeginning⟩ := h.look_next hpart
  obtain ⟨hlook', hbeginning'⟩ := Awaited.look_next hpart' (videos?_moment (k + 1))
  have hattempt : ({ t.toAttempt w k with phase := .waiting part videos } :
      Attempt).lookForTemplate (sources.moment (k + 1)) part =
        { t.toAttempt w (k + 1) with phase := .waiting part videos } := by
    simp only [lookForTemplate, AwaitedTemplate.toAttempt, hshelf, hbeginning, List.append_nil]
  have hlook : part.look (Wish.template? (sources.moment (k + 1)) (t.toAttempt w k).shelf) =
    t.part (k + 1) := hlook
  rw [AwaitedTemplate.part, hpart, videosPart, hpart', settled, goOn_of_begun w hwaits,
    look_waiting rfl, lookAfter_eq_settled w _ _ hbeginning', hattempt, hlook, hlook',
    settled_phase]
  rfl

/-- After each of its looks an attempt is what both parts come to at that look. -/
theorem run_looks (hchoose : w.choose shelf = (.ok start, shelf'))
    (h : Prepared sources shelf' start t)
    (hk : k ≤ (t.tokens.both (videosOf sources w)).rounds) :
    (machine w).run (sources.looks (k + 1)) (Attempt.start shelf) =
      settled w (t.part k) (videosPart sources w k) (t.toAttempt w k) := by
  -- by induction on the looks: the first begins both parts, each next one finds more arrived
  induction k with
  | zero => exact first_look hchoose h
  | succ k ih =>
    rw [Sources.looks, List.range_succ, List.map_append, Machine.run_append, ← Sources.looks,
      ih (Nat.le_of_succ_le hk)]
    exact next_look h hk

end

/-- The deeds, and the posters, once it is known what both parts come to. -/
def placed (w : Wish) : Except Failure (List Template.Token × List LinkedVideo) →
    List Deed × Except Failure (List Poster)
  | .error e => ([], .error e)
  | .ok (tokens, videos) => placePosters w.refusal? w.options tokens w.count videos

/-- What an attempt comes to at its last look. -/
theorem settled_rounds (w : Wish) (sources : Sources) (t : AwaitedTemplate) :
    let both := t.tokens.both (videosOf sources w)
    settled w (t.part both.rounds) (videosPart sources w both.rounds) (t.toAttempt w both.rounds) =
      { t.toAttempt w both.rounds with
        phase := .ended (placed w both.outcome).2, deeds := (placed w both.outcome).1 } := by
  intro both
  cases houtcome : both.outcome with
  | ok found =>
    obtain ⟨tokens, videos⟩ := found
    obtain ⟨htemplate, hvideos⟩ := Delayed.at?_of_both_eq_ok houtcome
    rw [AwaitedTemplate.part, videosPart, htemplate, hvideos]
    rfl
  | error e =>
    rw [AwaitedTemplate.part, videosPart]
    -- of two failures in one round the one of the template is told
    rcases Delayed.at?_of_both_eq_error houtcome with htemplate | ⟨htemplate, hvideos⟩
    · rw [htemplate]
      rfl
    · obtain ⟨part, hpart, -⟩ := Awaited.exists_settle (t.path.getD "") htemplate
      rw [hpart, hvideos]
      rfl

end Attempt

/-- **Making posters is an attempt that is looked after until it is over.** -/
theorem makePosters_eq_run (sources : Sources) (refusal? : Nat → Option String)
    (options : Options) (links : List Link) (count : Nat) (shelf : Template.Shelf) :
    let m := makePosters sources refusal? options links count shelf
    (Attempt.machine (sources.wish refusal? options links count)).run (sources.looks (m.rounds + 1))
      (.start shelf) = ⟨m.shelf, .ended m.outcome, m.fetched.toList, m.asked, m.deeds⟩ := by
  let w := sources.wish refusal? options links count
  show (Attempt.machine w).run _ _ = _
  cases hchoose : w.choose shelf with
  | mk chosen shelf' =>
    cases chosen with
    | error e =>
      have hawait : awaitTemplate sources shelf options.template = (.error e, shelf') :=
        awaitTemplate_of_choose (w := w) rfl hchoose
      have hmake : makePosters sources refusal? options links count shelf =
          ⟨shelf', none, [], 0, [], .error e⟩ := by
        rw [makePosters, hawait]
      rw [hmake]
      exact Attempt.look_fresh_error (s := .start shelf) rfl hchoose
    | ok start =>
      have hembedded : w.embedded? = sources.embedded? := rfl
      obtain ⟨t, hawait, h⟩ := Prepared.of_choose hembedded hchoose
      have hawait : awaitTemplate sources shelf options.template = (.ok t, shelf') := hawait
      let both := t.tokens.both (Attempt.videosOf sources w)
      have hmake : makePosters sources refusal? options links count shelf =
          ⟨t.shelfAt both.rounds, t.path, (t.toAttempt w 0).asked, both.rounds,
            (Attempt.placed w both.outcome).1, (Attempt.placed w both.outcome).2⟩ := by
        -- the shelf has the template if it arrived before the end
        have hshelf : t.shelfAt both.rounds =
            if t.tokens.isReached (sources.linkedVideos links).toDelayed then t.after
            else t.before := by
          simp only [AwaitedTemplate.shelfAt, Delayed.isReached_iff]
          rfl
        rw [makePosters, hawait, hshelf]
        cases houtcome : both.outcome with
        | error e =>
          have hboth : (t.tokens.both (sources.linkedVideos links).toDelayed).outcome =
            .error e := houtcome
          simp only [hboth]
          rfl
        | ok found =>
          have hboth : (t.tokens.both (sources.linkedVideos links).toDelayed).outcome =
            .ok found := houtcome
          simp only [hboth]
          rfl
      rw [hmake]
      exact (Attempt.run_looks hchoose h (Nat.le_refl both.rounds)).trans
        (Attempt.settled_rounds w sources t)

end VideoPosters
