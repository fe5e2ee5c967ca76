import VideoPosters.Proofs.Outcome
import VideoPosters.Proofs.Poster.Rounds

/-!
# Both parts, or nothing

An attempt to make posters does nothing that can be seen before it has both the template and
the metadata.  Whatever happens to it, in whatever order the parts come to an end and whatever
others do to the shelf meanwhile, its deeds go back to a look that found the template and to a
look that found the metadata; and if a part fails nothing was done.

## Main definitions

* `Attempt.awaited?` — what an attempt waits for at a look.
* `Attempt.IsRefused`, `Attempt.PartFails` — the looks at which an attempt fails.
* `Attempt.Obtains`, `Attempt.Reports` — the looks that find the template, or the metadata.
* `Attempt.Accounts` — whether a history accounts for an attempt.

## Main results

* `Attempt.accounts_run` — the history of an attempt accounts for it.
* `Attempt.fails_of_partFails` — a look at which a part fails is the end of the attempt.
* `Attempt.placed_after_both` — **posters are placed and shown only when both parts are there.**
-/

namespace VideoPosters

namespace Attempt

/-- What an attempt waits for at a look, and the shelf then. -/
def awaited? (w : Wish) (s : Attempt) : Option (Awaited String (List Template.Token) ×
    Awaited (List String) (List LinkedVideo) × Template.Shelf) :=
  match s.phase with
  | .fresh =>
    match w.choose s.shelf with
    | (.ok template, shelf) => some (template, .idle (videoIds w.links), shelf)
    | (.error _, _) => none
  | .waiting template videos => some (template, videos, s.shelf)
  | .ended _ | .gone => none

/-! ### Looks that fail, and looks that find something -/

/-- Whether the first look at an attempt finds that there is no template to wait for. -/
def IsRefused (w : Wish) (x : Step) (e : Failure) : Prop :=
  (∃ moment, x.act = .look moment) ∧ x.before.phase = .fresh ∧
    (w.choose x.before.shelf).1 = .error e

/-- Whether a look finds that a part that it waits for has failed. -/
inductive PartFails (w : Wish) (x : Step) (e : Failure) : Prop where
  /-- The template cannot be fetched, or what was fetched does not compile. -/
  | template {moment template videos shelf path outcome} (hact : x.act = .look moment)
      (hawaited : awaited? w x.before = some (template, videos, shelf))
      (hkey : template.key? = some path) (harrived : moment.text? path = some outcome)
      (hfails : (shelf.receive path outcome).1 = .error e)
  | videos {moment template videos shelf ids} (hact : x.act = .look moment)
      (hawaited : awaited? w x.before = some (template, videos, shelf))
      (hkey : videos.key? = some ids) (harrived : moment.videos? ids = some (.error e))

/-- Whether a look finds the template. -/
inductive Obtains (w : Wish) (x : Step) (tokens : List Template.Token) : Prop where
  /-- It is at hand. -/
  | atHand {moment shelf} (hact : x.act = .look moment) (hphase : x.before.phase = .fresh)
      (h : w.choose x.before.shelf = (.ok (.there tokens), shelf))
  | arrives {moment template videos shelf path text} (hact : x.act = .look moment)
      (hawaited : awaited? w x.before = some (template, videos, shelf))
      (hkey : template.key? = some path) (harrived : moment.text? path = some (.ok text))
      (hcompile : Template.compile text = .ok tokens)

/-- Whether a look finds the metadata of the videos that the links lead to. -/
inductive Reports (w : Wish) (x : Step) (items : List Video.Item) : Prop where
  | arrives {moment template videos shelf} (hact : x.act = .look moment)
      (hawaited : awaited? w x.before = some (template, videos, shelf))
      (hkey : videos.key? = some (videoIds w.links))
      (harrived : moment.videos? (videoIds w.links) = some (.ok items))

variable {w : Wish} {s : Attempt} {moment : Moment} {shelf : Template.Shelf}
  {template template' : Awaited String (List Template.Token)}
  {videos videos' : Awaited (List String) (List LinkedVideo)} {xs : List Step}

theorem look_of_awaited? (h : awaited? w s = some (template, videos, shelf)) :
    s.look w moment = { s with shelf }.lookAfter w moment template videos := by
  obtain ⟨before, phase, fetched, asked, deeds⟩ := s
  cases phase with
  | fresh =>
    -- at its first look an attempt chooses its template, and that can fail
    simp only [awaited?] at h
    split at h
    · next hchoose =>
      cases h
      exact look_fresh_ok rfl hchoose
    · cases h
  | waiting _ _ =>
    cases h
    rfl
  | ended _ => cases h
  | gone => cases h

/-- A fetched text gives a template if it compiles. -/
theorem compile_of_receive {path : String} {outcome : Except String String}
    {template : Template.Compiled} (h : (shelf.receive path outcome).1 = .ok template) :
    ∃ text, outcome = .ok text ∧ Template.compile text = .ok template.tokens := by
  cases outcome with
  | error reason => cases h
  | ok text =>
    rw [Template.Shelf.receive, Template.Shelf.compileAndKeep, Template.Shelf.compileAs] at h
    cases hcompile : Template.compile text with
    | error e =>
      simp only [hcompile] at h
      cases h
    | ok tokens =>
      simp only [hcompile] at h
      cases h
      exact ⟨text, rfl, hcompile⟩

/-- A template that was not there before a look and is there after it has arrived. -/
theorem obtains_of_look {x : Step} {tokens : List Template.Token} (hact : x.act = .look moment)
    (hawaited : awaited? w x.before = some (template, videos, shelf))
    (hlook : template.look (Wish.template? moment shelf) = .ok (.there tokens)) :
    template = .there tokens ∨ Obtains w x tokens := by
  refine (Awaited.of_look_eq_there hlook).imp_right ?_
  rintro ⟨path, hkey, harrived⟩
  obtain ⟨outcome, houtcome, hreceived⟩ := Option.map_eq_some_iff.1 harrived
  obtain ⟨kept, hkept, rfl⟩ := exists_of_map_eq_ok hreceived
  obtain ⟨text, rfl, hcompile⟩ := compile_of_receive hkept
  exact .arrives hact hawaited hkey houtcome hcompile

theorem reports_of_look {x : Step} {found : List LinkedVideo} (hact : x.act = .look moment)
    (hawaited : awaited? w x.before = some (template, videos, shelf))
    (hids : ∀ ids, videos.key? = some ids → ids = videoIds w.links)
    (hlook : videos.look (w.videos? moment) = .ok (.there found)) :
    videos = .there found ∨ ∃ items, Reports w x items ∧ found = linkVideos w.links items := by
  refine (Awaited.of_look_eq_there hlook).imp_right ?_
  rintro ⟨ids, hkey, harrived⟩
  obtain rfl := hids ids hkey
  obtain ⟨outcome, houtcome, hmapped⟩ := Option.map_eq_some_iff.1 harrived
  obtain ⟨items, rfl, rfl⟩ := exists_of_map_eq_ok hmapped
  exact ⟨items, .arrives hact hawaited hkey houtcome, rfl⟩

/-! ### What a history accounts for -/

/-- Whether a part goes back to a history: the template was obtained in it, or is awaited. -/
def TemplateFrom (w : Wish) (xs : List Step) (template : Awaited String (List Template.Token)) :
    Prop :=
  ∀ tokens, template = .there tokens → ∃ x ∈ xs, Obtains w x tokens

/-- Whether the metadata was reported in a history, or is awaited as it should be. -/
structure VideosFrom (w : Wish) (xs : List Step)
    (videos : Awaited (List String) (List LinkedVideo)) : Prop where
  key : ∀ ids, videos.key? = some ids → ids = videoIds w.links
  there : ∀ found, videos = .there found →
    ∃ items, (∃ x ∈ xs, Reports w x items) ∧ found = linkVideos w.links items

/-- Whether a history accounts for an attempt. -/
inductive Accounts (w : Wish) (xs : List Step) (s : Attempt) : Prop where
  | fresh (hphase : s.phase = .fresh) (hfetched : s.fetched = []) (hasked : s.asked = [])
      (hdeeds : s.deeds = [])
  | waiting {template : _} {videos : _} (hphase : s.phase = .waiting template videos)
      (htemplate : TemplateFrom w xs template) (hvideos : VideosFrom w xs videos)
      (hdeeds : s.deeds = [])
  | failed {e} (hphase : s.phase = .ended (.error e)) (hdeeds : s.deeds = [])
  | placed {outcome tokens items} (hphase : s.phase = .ended outcome)
      (hobtained : ∃ x ∈ xs, Obtains w x tokens) (hreported : ∃ x ∈ xs, Reports w x items)
      (hplaced : placePosters w.refusal? w.options tokens w.count (linkVideos w.links items) =
        (s.deeds, outcome))
  | gone (hphase : s.phase = .gone) (hdeeds : s.deeds = [])

theorem TemplateFrom.append (h : TemplateFrom w xs template) (x : Step) :
    TemplateFrom w (xs ++ [x]) template := by
  intro tokens htokens
  obtain ⟨y, hy, hobtained⟩ := h tokens htokens
  exact ⟨y, List.mem_append_left _ hy, hobtained⟩

theorem VideosFrom.append (h : VideosFrom w xs videos) (x : Step) :
    VideosFrom w (xs ++ [x]) videos := by
  refine ⟨h.key, fun found hfound => ?_⟩
  obtain ⟨items, ⟨y, hy, hreported⟩, heq⟩ := h.there found hfound
  exact ⟨items, ⟨y, List.mem_append_left _ hy, hreported⟩, heq⟩

/-- What an attempt waits for at a look goes back to its history. -/
theorem Accounts.awaited (h : Accounts w xs s)
    (hawaited : awaited? w s = some (template, videos, shelf)) {x : Step}
    (hact : x.act = .look moment) (hbefore : x.before = s) :
    TemplateFrom w (xs ++ [x]) template ∧ VideosFrom w (xs ++ [x]) videos ∧ s.deeds = [] := by
  subst hbefore
  cases h with
  -- the choice made at the first look is that look itself
  | fresh hphase _ _ hdeeds =>
    rw [awaited?, hphase] at hawaited
    cases hchoose : w.choose x.before.shelf with
    | mk chosen shelf' =>
      cases chosen with
      | error e =>
        simp only [hchoose] at hawaited
        cases hawaited
      | ok start =>
        simp only [hchoose] at hawaited
        cases hawaited
        refine ⟨fun tokens htokens => ?_, ⟨fun ids hids => ?_, fun found hfound => nomatch hfound⟩,
          hdeeds⟩
        · subst htokens
          exact ⟨x, List.mem_append_right _ (List.mem_singleton_self x),
            .atHand hact hphase hchoose⟩
        · exact (Option.some.inj hids).symm
  -- what was waited for already goes back to the steps before
  | waiting hphase htemplate hvideos hdeeds =>
    rw [awaited?, hphase] at hawaited
    cases hawaited
    exact ⟨htemplate.append x, hvideos.append x, hdeeds⟩
  | failed hphase _ =>
    rw [awaited?, hphase] at hawaited
    cases hawaited
  | placed hphase _ _ _ =>
    rw [awaited?, hphase] at hawaited
    cases hawaited
  | gone hphase _ =>
    rw [awaited?, hphase] at hawaited
    cases hawaited

/-- What a look at both parts comes to is accounted for by the history with that look. -/
theorem accounts_lookAfter {x : Step} (hact : x.act = .look moment)
    (hawaited : awaited? w x.before = some (template, videos, shelf))
    (htemplate : TemplateFrom w (xs ++ [x]) template) (hvideos : VideosFrom w (xs ++ [x]) videos)
    (hdeeds : s.deeds = []) (hshelf : s.shelf = shelf) :
    Accounts w (xs ++ [x]) (s.lookAfter w moment template videos) := by
  have hx : x ∈ xs ++ [x] := List.mem_append_right _ (List.mem_singleton_self x)
  have hlooked := looked w moment template videos s
  -- a look that fails leaves the deeds alone, and one that goes on may find both parts
  generalize s.lookAfter w moment template videos = s' at hlooked ⊢
  cases hlooked with
  | templateFails h => exact .failed rfl hdeeds
  | videosFail h h' => exact .failed rfl hdeeds
  | @goOn template' videos' h h' =>
    rw [hshelf] at h
    have htemplate' : TemplateFrom w (xs ++ [x]) template' := by
      rintro tokens rfl
      rcases obtains_of_look hact hawaited h with hthere | hobtained
      · exact htemplate tokens hthere
      · exact ⟨x, hx, hobtained⟩
    have hvideos' : VideosFrom w (xs ++ [x]) videos' := by
      refine ⟨fun ids hids => hvideos.key ids (Awaited.key?_of_look h' hids), ?_⟩
      rintro found rfl
      rcases reports_of_look hact hawaited hvideos.key h' with hthere | ⟨items, hreported, heq⟩
      · exact hvideos.there found hthere
      · exact ⟨items, ⟨x, hx, hreported⟩, heq⟩
    cases template' with
    | there tokens =>
      cases videos' with
      | there found =>
        obtain ⟨items, hreported, rfl⟩ := hvideos'.there found rfl
        refine .placed rfl (htemplate' tokens rfl) hreported ?_
        -- both parts are there, and nothing was done before
        show _ = (s.deeds ++ _, _)
        rw [hdeeds]
        rfl
      | idle ids => exact .waiting rfl htemplate' hvideos' hdeeds
      | begun ids => exact .waiting rfl htemplate' hvideos' hdeeds
    | idle path => exact .waiting rfl htemplate' hvideos' hdeeds
    | begun path => exact .waiting rfl htemplate' hvideos' hdeeds

theorem Accounts.append (h : Accounts w xs s) (x : Step) : Accounts w (xs ++ [x]) s := by
  cases h with
  | fresh hphase hfetched hasked hdeeds => exact .fresh hphase hfetched hasked hdeeds
  | waiting hphase htemplate hvideos hdeeds =>
    exact .waiting hphase (htemplate.append x) (hvideos.append x) hdeeds
  | failed hphase hdeeds => exact .failed hphase hdeeds
  | placed hphase hobtained hreported hplaced =>
    obtain ⟨y, hy, hobtained⟩ := hobtained
    obtain ⟨z, hz, hreported⟩ := hreported
    exact .placed hphase ⟨y, List.mem_append_left _ hy, hobtained⟩
      ⟨z, List.mem_append_left _ hz, hreported⟩ hplaced
  | gone hphase hdeeds => exact .gone hphase hdeeds

/-- The shelf is left out of account. -/
theorem Accounts.withShelf (h : Accounts w xs s) (shelf : Template.Shelf) :
    Accounts w xs { s with shelf } := by
  cases h with
  | fresh hphase hfetched hasked hdeeds => exact .fresh hphase hfetched hasked hdeeds
  | waiting hphase htemplate hvideos hdeeds => exact .waiting hphase htemplate hvideos hdeeds
  | failed hphase hdeeds => exact .failed hphase hdeeds
  | placed hphase hobtained hreported hplaced =>
    exact .placed hphase hobtained hreported hplaced
  | gone hphase hdeeds => exact .gone hphase hdeeds

theorem Accounts.drop (h : Accounts w xs s) : Accounts w xs s.drop := by
  cases h with
  | fresh hphase _ _ hdeeds =>
    rw [Attempt.drop, hphase]
    exact .gone rfl hdeeds
  | waiting hphase _ _ hdeeds =>
    rw [Attempt.drop, hphase]
    exact .gone rfl hdeeds
  | failed hphase hdeeds =>
    rw [Attempt.drop, hphase]
    exact .failed hphase hdeeds
  | placed hphase hobtained hreported hplaced =>
    rw [Attempt.drop, hphase]
    exact .placed hphase hobtained hreported hplaced
  | gone hphase hdeeds =>
    rw [Attempt.drop, hphase]
    exact .gone rfl hdeeds

/-- A look at which nothing is waited for ends a fresh attempt or changes nothing. -/
theorem look_of_awaited?_eq_none (h : awaited? w s = none) :
    (s.phase = .fresh ∧ ∃ e, w.choose s.shelf = (.error e, s.shelf) ∧
      s.look w moment = s.fail e) ∨ s.look w moment = s := by
  obtain ⟨before, phase, fetched, asked, deeds⟩ := s
  cases phase with
  | fresh =>
    simp only [awaited?] at h
    split at h
    · cases h
    · next e shelf hchoose =>
      obtain rfl := choose_eq_error hchoose
      exact .inl ⟨rfl, e, hchoose, look_fresh_error rfl hchoose⟩
  | waiting _ _ => cases h
  | ended _ => exact .inr rfl
  | gone => exact .inr rfl

/-- Nothing has been done before the first look. -/
theorem Accounts.of_fresh (h : Accounts w xs s) (hphase : s.phase = .fresh) :
    s.fetched = [] ∧ s.asked = [] ∧ s.deeds = [] := by
  cases h with
  | fresh _ hfetched hasked hdeeds => exact ⟨hfetched, hasked, hdeeds⟩
  | waiting hphase' _ _ _ => cases hphase.symm.trans hphase'
  | failed hphase' _ => cases hphase.symm.trans hphase'
  | placed hphase' _ _ _ => cases hphase.symm.trans hphase'
  | gone hphase' _ => cases hphase.symm.trans hphase'

/-- Each act keeps an attempt accounted for. -/
theorem accounts_step (h : Accounts w xs s) (a : Act) :
    Accounts w (xs ++ [(machine w).take a s]) ((machine w).step a s).2 := by
  cases a with
  | look moment =>
    show Accounts w _ (s.look w moment)
    cases hawaited : awaited? w s with
    | some awaited =>
      obtain ⟨template, videos, shelf⟩ := awaited
      obtain ⟨htemplate, hvideos, hdeeds⟩ := h.awaited hawaited (x := (machine w).take _ s) rfl rfl
      rw [look_of_awaited? hawaited]
      exact accounts_lookAfter rfl hawaited htemplate hvideos hdeeds rfl
    | none =>
      rcases look_of_awaited?_eq_none hawaited with ⟨hphase, e, -, hlook⟩ | hlook
      · rw [hlook]
        exact .failed rfl (h.of_fresh hphase).2.2
      · rw [hlook]
        exact h.append _
  | drop => exact h.drop.append _
  | elsewhere shelf => exact (h.withShelf shelf).append _

/-- The history of an attempt accounts for it. -/
theorem accounts_run (h : Accounts w xs s) (acts : List Act) :
    Accounts w (xs ++ (machine w).steps acts s) ((machine w).run acts s) := by
  induction acts generalizing xs s with
  | nil =>
    rw [Machine.steps_nil, List.append_nil]
    exact h
  | cons a acts ih =>
    rw [Machine.steps_cons, Machine.run_cons, ← List.singleton_append, ← List.append_assoc]
    exact ih (accounts_step h a)

theorem accounts_start (w : Wish) (shelf : Template.Shelf) : Accounts w [] (start shelf) :=
  .fresh rfl rfl rfl rfl

theorem keeps_accounts (w : Wish) : (machine w).Keeps fun s => ∃ xs, Accounts w xs s := by
  rintro a s ⟨xs, h⟩
  exact ⟨_, accounts_step h a⟩

/-! ### Failures -/

/-- A part fails in a look just where the look at it does. -/
theorem partFails_iff {x : Step} {e : Failure} (hact : x.act = .look moment)
    (hawaited : awaited? w x.before = some (template, videos, shelf)) :
    PartFails w x e ↔ template.look (Wish.template? moment shelf) = .error e ∨
      videos.look (w.videos? moment) = .error e := by
  rw [Awaited.look_eq_error_iff, Awaited.look_eq_error_iff]
  constructor
  · -- a failure that has arrived is one that the part waits for
    intro h
    cases h with
    | template hact' hawaited' hkey harrived hfails =>
      cases hact.symm.trans hact'
      cases hawaited.symm.trans hawaited'
      refine .inl ⟨_, hkey, ?_⟩
      rw [Wish.template?, harrived, Option.map_some, hfails]
      rfl
    | videos hact' hawaited' hkey harrived =>
      cases hact.symm.trans hact'
      cases hawaited.symm.trans hawaited'
      refine .inr ⟨_, hkey, ?_⟩
      rw [Wish.videos?, harrived]
      rfl
  · rintro (⟨path, hkey, harrived⟩ | ⟨ids, hkey, harrived⟩)
    · obtain ⟨outcome, houtcome, hfails⟩ := Option.map_eq_some_iff.1 harrived
      refine .template hact hawaited hkey houtcome ?_
      -- the part fails in the look with what it is told
      cases hreceived : (shelf.receive path outcome).1 with
      | error f =>
        rw [hreceived] at hfails
        cases hfails
        rfl
      | ok kept =>
        rw [hreceived] at hfails
        cases hfails
    · obtain ⟨outcome, houtcome, hfails⟩ := Option.map_eq_some_iff.1 harrived
      refine .videos hact hawaited hkey ?_
      cases outcome with
      | error f =>
        cases hfails
        exact houtcome
      | ok items => cases hfails

/-- A look at which a part fails is the end of the attempt, and nothing was done. -/
theorem fails_of_partFails {x : Step} {e : Failure} (hx : x = (machine w).take x.act x.before)
    (hbefore : Accounts w xs x.before) (h : PartFails w x e) :
    ∃ e', PartFails w x e' ∧ x.after.phase = .ended (.error e') ∧ x.after.deeds = [] := by
  -- either part can fail only in a look at both
  obtain ⟨moment, template, videos, shelf, hact, hawaited⟩ : ∃ moment template videos shelf,
      x.act = .look moment ∧ awaited? w x.before = some (template, videos, shelf) := by
    cases h with
    | template hact hawaited => exact ⟨_, _, _, _, hact, hawaited⟩
    | videos hact hawaited => exact ⟨_, _, _, _, hact, hawaited⟩
  obtain ⟨-, -, hdeeds⟩ := hbefore.awaited hawaited hact rfl
  have hiff : ∀ f, PartFails w x f ↔ _ := fun f => partFails_iff hact hawaited
  have hafter : x.after = { x.before with shelf }.lookAfter w moment template videos := by
    rw [hx, hact]
    exact look_of_awaited? hawaited
  have hlooked := looked w moment template videos { x.before with shelf }
  rw [← hafter] at hlooked
  generalize x.after = s at hlooked ⊢
  cases hlooked with
  | templateFails hlook => exact ⟨_, (hiff _).2 (.inl hlook), rfl, hdeeds⟩
  | videosFail _ hlook => exact ⟨_, (hiff _).2 (.inr hlook), rfl, hdeeds⟩
  | goOn hlook hlook' =>
    rcases (hiff e).1 h with hfails | hfails
    · cases hlook.symm.trans hfails
    · cases hlook'.symm.trans hfails

/-- A look at which there is no template to wait for is the end of the attempt, and nothing has
changed. -/
theorem after_isRefused {x : Step} {e : Failure} (hx : x = (machine w).take x.act x.before)
    (h : IsRefused w x e) : x.after = x.before.fail e := by
  obtain ⟨⟨moment, hact⟩, hphase, hchoose⟩ := h
  have hsame : w.choose x.before.shelf = (.error e, x.before.shelf) := by
    have hchosen : w.choose x.before.shelf = (.error e, (w.choose x.before.shelf).2) :=
      Prod.ext hchoose rfl
    exact hchosen.trans (congrArg (Prod.mk _) (choose_eq_error hchosen))
  rw [hx, hact]
  exact look_fresh_error hphase hsame

/-- **Posters are placed and shown only when both parts are there.** -/
theorem placed_after_both (sources : Sources) (refusal? : Nat → Option String)
    (options : Options) (links : List Link) (count : Nat) (shelf : Template.Shelf)
    (acts : List Act) :
    let w := sources.wish refusal? options links count
    let xs := (machine w).steps acts (start shelf)
    let s := (machine w).run acts (start shelf)
    (s.deeds ≠ [] → ∃ tokens items outcome, (∃ x ∈ xs, Obtains w x tokens) ∧
      (∃ x ∈ xs, Reports w x items) ∧ s.phase = .ended outcome ∧
        placePosters refusal? options tokens count (linkVideos links items) =
          (s.deeds, outcome)) ∧
    (∀ x ∈ xs, ∀ e, IsRefused w x e → x.after.shelf = x.before.shelf ∧
      s.phase = .ended (.error e) ∧ s.fetched = [] ∧ s.asked = [] ∧ s.deeds = []) ∧
    (∀ x ∈ xs, ∀ e, PartFails w x e →
      ∃ e', PartFails w x e' ∧ s.phase = .ended (.error e') ∧ s.deeds = []) ∧
    let m := makePosters sources refusal? options links count shelf
    (machine w).run (sources.looks (m.rounds + 1)) (start shelf) =
      ⟨m.shelf, .ended m.outcome, m.fetched.toList, m.asked, m.deeds⟩ := by
  intro w xs s
  have haccounts : Accounts w xs s := accounts_run (accounts_start w shelf) acts
  refine ⟨fun hdeeds => ?_, fun x hx e h => ?_, fun x hx e h => ?_,
    makePosters_eq_run sources refusal? options links count shelf⟩
  · -- deeds are accounted for by the one case in which posters were placed
    cases haccounts with
    | fresh _ _ _ hnone => exact absurd hnone hdeeds
    | waiting _ _ _ hnone => exact absurd hnone hdeeds
    | failed _ hnone => exact absurd hnone hdeeds
    | placed hphase hobtained hreported hplaced =>
      exact ⟨_, _, _, hobtained, hreported, hphase, hplaced⟩
    | gone _ hnone => exact absurd hnone hdeeds
  · -- an attempt refused at its first look is over, and stays as it is
    obtain ⟨ys, hbefore⟩ := (keeps_accounts w).before ⟨[], accounts_start w shelf⟩ hx
    have hafter := after_isRefused (Machine.eq_take_of_mem hx) h
    obtain ⟨hfetched, hasked, hdeeds⟩ := hbefore.of_fresh h.2.1
    have hover : IsOver (.error e) [] [] [] x.after := by
      rw [hafter]
      exact ⟨rfl, hfetched, hasked, hdeeds⟩
    have hend := (keeps_ended w _ _ _ _).atEnd_of_after hx hover
    exact ⟨hafter ▸ rfl, hend.phase, hend.fetched, hend.asked, hend.deeds⟩
  · obtain ⟨ys, hbefore⟩ := (keeps_accounts w).before ⟨[], accounts_start w shelf⟩ hx
    obtain ⟨e', hfails, hphase, hdeeds⟩ := fails_of_partFails (Machine.eq_take_of_mem hx) hbefore h
    have hend := (keeps_ended w _ _ _ _).atEnd_of_after hx ⟨hphase, rfl, rfl, hdeeds⟩
    exact ⟨e', hfails, hend.phase, hend.deeds⟩

/-- The metadata fails while the template is still being fetched, and posters are shown where
both are there. -/
theorem placed_after_both_race :
    let links := ["https://youtu.be/a"].map Link.ofHref
    let failing : Sources := ⟨fun _ => none, fun _ => ⟨2, .ok "x"⟩,
      fun _ => ⟨1, .error (.foreign "refused")⟩⟩
    let working : Sources := ⟨fun _ => none, fun _ => ⟨2, .ok "x"⟩,
      fun _ => ⟨1, .ok [⟨"a", none, none, []⟩]⟩⟩
    let options := Options.ofTemplate (.specifier "/t")
    let run (sources : Sources) := (machine (sources.wish (fun _ => none) options links 0)).run
      (sources.looks 3) (start Template.Shelf.empty)
    (∃ e, (run failing).phase = .ended (.error e) ∧ (run failing).deeds = []) ∧
    (run working).deeds ≠ [] ∧ ∃ tokens items outcome, (run working).phase = .ended outcome ∧
      placePosters (fun _ => none) options tokens 0 (linkVideos links items) =
        ((run working).deeds, outcome) := by
  intro links failing working options run
  refine ⟨?_, ?_⟩
  · let w := failing.wish (fun _ => none) options links 0
    let x := (machine w).take (.look (failing.moment 1))
      ((machine w).run [.look (failing.moment 0)] (start Template.Shelf.empty))
    have hx : x ∈ (machine w).steps (failing.looks 3) (start Template.Shelf.empty) :=
      (machine w).take_mem_steps [.look (failing.moment 0)] _ [.look (failing.moment 2)] _
    have hfails : PartFails w x (.foreign "refused") :=
      .videos rfl (show awaited? w x.before =
        some (.begun "/t", .begun ["a"], Template.Shelf.empty) by rfl) rfl rfl
    obtain ⟨-, -, hfailed, -⟩ := placed_after_both failing (fun _ => none) options links 0
      Template.Shelf.empty (failing.looks 3)
    obtain ⟨e, -, hphase, hdeeds⟩ := hfailed x hx _ hfails
    exact ⟨e, hphase, hdeeds⟩
  · have hdeeds : (run working).deeds ≠ [] := by
      have hempty : (run working).deeds.isEmpty = false := by decide +kernel
      exact List.isEmpty_eq_false_iff.1 hempty
    obtain ⟨hplaced, -, -, -⟩ := placed_after_both working (fun _ => none) options links 0
      Template.Shelf.empty (working.looks 3)
    obtain ⟨tokens, items, outcome, -, -, hphase, hall⟩ := hplaced hdeeds
    exact ⟨hdeeds, tokens, items, outcome, hphase, hall⟩

end Attempt

end VideoPosters
