import VideoPosters.Poster.Making
import VideoPosters.Proofs.Poster.Deeds
import VideoPosters.Proofs.Template.Transparency

/-!
# The stages of making posters

A program that makes posters once has nothing on its shelf.  Then there are two things to
succeed, the answer for the specifier and the report on the videos: if both do the posters are
placed one after the other, and otherwise nothing at all is done.

## Main results

* `awaitTemplate_empty` — with nothing kept a specifier is answered as it is without a shelf.
* `makePosters_empty` — **what making posters comes to, with nothing kept.**
* `placePosters_of_placer` — all posters are placed and shown if no placement is refused.
-/

namespace VideoPosters

open Template.Shelf (Answer answer answer_of_none answer_of_some answer_of_path answer_of_literal
  fetchOutcome compiled_of_ok compiled_of_error)

/-- What the fetches of some sources bring. -/
def Sources.textAt (sources : Sources) (path : String) : Except String String :=
  (sources.template path).outcome

/-- With nothing kept a specifier is answered as it is without a shelf. -/
theorem awaitTemplate_empty (sources : Sources) (spec : String) :
    (∃ e shelf, awaitTemplate sources .empty (.specifier spec) = (.error e, shelf) ∧
      answer sources.embedded? sources.textAt spec = .refused e) ∨
    ∃ t shelf, awaitTemplate sources .empty (.specifier spec) = (.ok t, shelf) ∧
      answer sources.embedded? sources.textAt spec = .delivers t.tokens.outcome := by
  have hnone : Template.Shelf.empty.entries.get? spec = none := rfl
  rw [awaitTemplate, Template.Shelf.resolve, hnone]
  -- an embedded name, a path or a template written out
  rcases Specifier.classify_cases spec with hspec | hspec | hspec
  · simp only [hspec]
    cases htext : sources.embedded? spec with
    | none => exact .inl ⟨_, _, rfl, answer_of_none hspec htext⟩
    | some text =>
      rw [answer_of_some hspec htext]
      simp only [Template.Shelf.compileAndKeep, Template.Shelf.compileAs]
      cases hcompile : Template.compile text with
      | ok tokens =>
        rw [compiled_of_ok hcompile]
        exact .inr ⟨_, _, rfl, rfl⟩
      | error e =>
        rw [compiled_of_error hcompile]
        exact .inl ⟨_, _, rfl, rfl⟩
  · simp only [hspec]
    refine .inr ⟨_, _, rfl, (answer_of_path hspec).trans (congrArg Answer.delivers ?_)⟩
    rw [fetchOutcome, Sources.textAt]
    cases (sources.template spec).outcome with
    | error reason => rfl
    | ok text =>
      simp only [Template.Shelf.receive, Template.Shelf.compileAndKeep, Template.Shelf.compileAs]
      cases hcompile : Template.compile text with
      | ok tokens => rw [compiled_of_ok hcompile]; rfl
      | error e => rw [compiled_of_error hcompile]; rfl
  · rw [answer_of_literal hspec]
    simp only [hspec, Template.Shelf.compileAs]
    cases hcompile : Template.compile spec with
    | ok tokens =>
      rw [compiled_of_ok hcompile]
      exact .inr ⟨_, _, rfl, rfl⟩
    | error e =>
      rw [compiled_of_error hcompile]
      exact .inl ⟨_, _, rfl, rfl⟩

/-- What making posters comes to, with nothing kept. -/
theorem makePosters_empty {sources : Sources} {refusal? : Nat → Option String}
    {options : Options} {links : List Link} {count : Nat} {spec : String}
    (hspec : options.template = .specifier spec) :
    let m := makePosters sources refusal? options links count .empty
    (∃ tokens items, answer sources.embedded? sources.textAt spec = .delivers (.ok tokens) ∧
      (sources.videos (videoIds links)).outcome = .ok items ∧
      (m.deeds, m.outcome) =
        placePosters refusal? options tokens count (linkVideos links items)) ∨
    (∀ tokens items, answer sources.embedded? sources.textAt spec = .delivers (.ok tokens) →
      (sources.videos (videoIds links)).outcome ≠ .ok items) ∧
      m.deeds = [] ∧ ∃ e, m.outcome = .error e := by
  intro m
  have hvideos : (sources.linkedVideos links).outcome =
    (sources.videos (videoIds links)).outcome.map (linkVideos links) := rfl
  rcases awaitTemplate_empty sources spec with
    ⟨e, shelf, hawait, hanswer⟩ | ⟨t, shelf, hawait, hanswer⟩
  · -- without a template nothing is asked for
    have hm : m = ⟨shelf, none, [], 0, [], .error e⟩ := by
      simp only [m, makePosters, hspec, hawait]
    rw [hm, hanswer]
    exact .inr ⟨fun tokens items h => (by cases h), rfl, e, rfl⟩
  · cases hboth : (t.tokens.both (sources.linkedVideos links).toDelayed).outcome with
    | ok found =>
      obtain ⟨tokens, videos⟩ := found
      obtain ⟨htokens, hfound⟩ := Delayed.outcome_both_eq_ok_iff.1 hboth
      obtain ⟨items, hitems, rfl⟩ := exists_of_map_eq_ok (hvideos.symm.trans hfound)
      refine .inl ⟨tokens, items, by rw [hanswer, htokens], hitems, ?_⟩
      simp only [m, makePosters, hspec, hawait, hboth]
    | error e =>
      refine .inr ⟨fun tokens items htokens hitems => ?_, ?_, e, ?_⟩
      · -- if both parts were there the attempt would not have failed
        rw [hanswer] at htokens
        have hfound : (sources.linkedVideos links).outcome = .ok (linkVideos links items) := by
          rw [hvideos, hitems]
          rfl
        have hok := Delayed.outcome_both_eq_ok_iff.2 ⟨Answer.delivers.inj htokens, hfound⟩
        rw [hboth] at hok
        cases hok
      · simp only [m, makePosters, hspec, hawait, hboth]
      · simp only [m, makePosters, hspec, hawait, hboth]

/-- All posters are placed and shown, in order, if no placement is refused. -/
theorem placePosters_of_placer {options : Options} {placer : Placer}
    (hplacer : options.placer = some placer) (template : List Template.Token) (count : Nat)
    (videos : List LinkedVideo) :
    placePosters (fun _ => none) options template count videos =
      (videos.flatMap fun v =>
        [.place v.link (Poster.make options template v.video) placer,
          .present v.link (Poster.make options template v.video)],
        .ok (videos.map fun v => Poster.make options template v.video)) :=
  placePosters_of_placed hplacer videos fun _ _ => rfl

end VideoPosters
