import VideoPosters.Proofs.Player.Scene
import VideoPosters.Rehearsal.Stage

/-!
# Rehearsals of clicks are runs of a scene

Whatever is done on a stage, its loader and its clicks only ever go where clicks, looks and
what happens to the loader can take a scene.  All that is true of whole runs of scenes is
therefore true of rehearsals.

## Main definitions

* `Stage.Shows` — whether a stage has the loader and the clicks of a scene.
* `Stage.Leads` — whether a stage only goes where its scene can go.

## Main results

* `Stage.leads_perform` — **no act of a rehearsal leads out of the scenes.**
* `Stage.exists_acts` — each stage shows a scene after some run.
-/

namespace VideoPosters.Rehearsal.Stage

open Player

/-- Whether a stage has the loader and the clicks of a scene. -/
structure Shows (s : Stage) (scene : Scene) : Prop where
  run : s.loading.run = scene.run
  clicks : s.clicks = scene.presses.map Press.click

/-- Whether a stage comes to another one only by going where its scene can go. -/
def Leads (s t : Stage) : Prop :=
  ∀ scene, scene.IsSound → s.Shows scene → ∃ scene', Scene.machine.Reaches scene scene' ∧
    t.Shows scene'

variable {s t u : Stage}

theorem Leads.trans (h : s.Leads t) (h' : t.Leads u) : s.Leads u := by
  intro scene hsound hshows
  obtain ⟨scene', ⟨acts, rfl⟩, hshows'⟩ := h scene hsound hshows
  obtain ⟨scene'', hreaches, hshows''⟩ := h' _ (Scene.keeps_isSound.run acts hsound) hshows'
  exact ⟨scene'', Machine.Reaches.trans ⟨acts, rfl⟩ hreaches, hshows''⟩

/-- What leaves the loader and the clicks alone. -/
theorem leads_of_eq (hrun : t.loading.run = s.loading.run) (hclicks : t.clicks = s.clicks) :
    s.Leads t := fun scene _ hshows =>
  ⟨scene, .refl scene, hrun.trans hshows.run, hclicks.trans hshows.clicks⟩

/-! ### The loader -/

theorem leads_runTasks (s : Stage) : s.Leads s.runTasks.2 := by
  intro scene _ hshows
  have hrun : s.runTasks.2.loading.run = s.loading.runTasks.2.run := rfl
  have hclicks : s.runTasks.2.clicks = scene.presses.map Press.click := hshows.clicks
  rw [Loading.runTasks] at hrun
  split at hrun
  · -- injections end one after the other, and the clicks stay as they are
    have hend (outcome) (r : Run) : Scene.machine.Reaches ⟨r, scene.presses⟩
        ⟨r.endInjection outcome, scene.presses⟩ :=
      Machine.reaches_step (Scene.Act.loader (.endInjection outcome)) (Scene.mk r scene.presses)
    rw [hshows.run] at hrun
    exact ⟨⟨_, scene.presses⟩, Machine.reaches_repeat (Scene.mk · scene.presses) (hend _) _ scene.run,
      hrun, hclicks⟩
  · exact ⟨scene, .refl scene, hrun.trans hshows.run, hclicks⟩

theorem leads_runTasksAfter (rounds : Nat) (s : Stage) : s.Leads (s.runTasksAfter rounds).2 := by
  rw [runTasksAfter]
  split
  · exact leads_of_eq rfl rfl
  · exact leads_runTasks s

/-- The script signals to the loader, which is held. -/
theorem leads_signal (s : Stage) :
    s.Leads { s with loading := { s.loading with run := s.loading.run.signal.2 } } := by
  intro scene hsound hshows
  have hsignal : (scene.run.signalThrough none).2 = scene.run.signal.2 := by
    rw [Run.signalThrough, hsound.held]
    rfl
  have hstep : Scene.machine.Reaches scene ⟨(scene.run.signalThrough none).2, scene.presses⟩ :=
    Machine.reaches_step (Scene.Act.loader (.signal none)) scene
  refine ⟨_, hstep, ?_, hshows.clicks⟩
  show s.loading.run.signal.2 = (scene.run.signalThrough none).2
  rw [hsignal, hshows.run]

/-! ### Clicks -/

/-- Looking after a click of a stage is looking after the click. -/
theorem of_pollClick {i : Nat} {status : Click.Status} {events : List Event}
    (h : s.pollClick i = some (status, events, t)) :
    ∃ click, s.clicks[i]? = some click ∧
      t.loading.run = (click.poll s.page.player s.loading.run).2.2.2 ∧
      t.clicks = s.clicks.set i (click.poll s.page.player s.loading.run).2.2.1 := by
  rw [pollClick] at h
  obtain ⟨click, hi, ht⟩ := Option.bind_eq_some_iff.1 h
  refine ⟨click, hi, ?_⟩
  generalize click.poll s.page.player s.loading.run = seen at ht ⊢
  cases ht
  exact ⟨rfl, rfl⟩

theorem leads_pollClick {i : Nat} {status : Click.Status} {events : List Event}
    (h : s.pollClick i = some (status, events, t)) : s.Leads t := by
  intro scene _ hshows
  obtain ⟨click, hi, hrun, hclicks⟩ := of_pollClick h
  -- the click of the stage is one of the scene, and it is looked after there
  rw [hshows.clicks, List.getElem?_map] at hi
  obtain ⟨p, hp, rfl⟩ := Option.map_eq_some_iff.1 hi
  rw [hshows.run] at hrun hclicks
  have hlook : (Scene.machine.step (.look i s.page.player) scene).2 =
      ⟨(p.click.poll s.page.player scene.run).2.2.2, scene.presses.set i
        { p with click := (p.click.poll s.page.player scene.run).2.2.1 }⟩ := by
    show (scene.look i s.page.player).2 = _
    rw [Scene.look, hp]
  refine ⟨_, Machine.reaches_step (.look i s.page.player) scene, ?_, ?_⟩
  · rw [hrun, hlook]
  · rw [hclicks, hshows.clicks, hlook, List.map_set]

theorem leads_awaitClick {i : Nat} {status : Click.Status} {events : List Event}
    (h : s.awaitClick i = some (status, events, t)) : s.Leads t := by
  obtain ⟨⟨first, before, s'⟩, hfirst, hrest⟩ := Option.bind_eq_some_iff.1 h
  have hleads := leads_pollClick hfirst
  cases first with
  | pending =>
    -- a click without a result is looked after once more when the tasks have run
    obtain ⟨⟨second, after, t'⟩, hsecond, ht⟩ := Option.bind_eq_some_iff.1 hrest
    have hsecond : s'.runTasks.2.pollClick i = some (second, after, t') := hsecond
    cases ht
    exact hleads.trans ((leads_runTasks s').trans (leads_pollClick hsecond))
  | done outcome =>
    cases hrest
    exact hleads
  | taken =>
    cases hrest
    exact hleads

/-- Replacing a poster is a click with something to do, and the four steps of its request. -/
theorem reaches_replace {o : Order} (ho : o.isHandled = true) (scene : Scene) :
    let begun := Click.replace o.options o.poster scene.run
    Scene.machine.Reaches scene ⟨begun.2, scene.presses ++ [⟨o, begun.1⟩]⟩ := by
  intro begun
  have hpress := Scene.reaches_press o scene
  rw [Scene.press, if_pos ho] at hpress
  exact hpress.trans ⟨List.replicate 4 (.loader (.advance scene.run.calls.length)), rfl⟩

/-- A click on a poster replaces it if the poster has a click handler, and else does nothing. -/
theorem reaches_start {o : Order} (ho : o.isReplacement = false) (scene : Scene) :
    let begun := Click.start o.options o.poster scene.run
    Scene.machine.Reaches scene ⟨begun.2, scene.presses ++ [⟨o, begun.1⟩]⟩ := by
  intro begun
  -- only a handler gives the click something to do
  cases honclick : o.poster.onclick with
  | none =>
    have hidle : ¬ o.isHandled = true := by
      rw [Order.isHandled, ho, honclick]
      exact Bool.false_ne_true
    have hbegun : begun = (.idle, scene.run) := by
      show Click.start o.options o.poster scene.run = _
      rw [Click.start, honclick]
    have hpress := Scene.reaches_press o scene
    rw [Scene.press, if_neg hidle] at hpress
    rw [hbegun]
    exact hpress
  | some handler =>
    cases handler
    have hhandled : o.isHandled = true := by
      rw [Order.isHandled, ho, honclick]
      rfl
    have hbegun : begun = Click.replace o.options o.poster scene.run := by
      show Click.start o.options o.poster scene.run = _
      rw [Click.start, honclick]
    rw [hbegun]
    exact reaches_replace hhandled scene

theorem leads_clickOn {poster : Poster} {options : Options} {isReplacement : Bool}
    {report : Report} (h : s.clickOn poster options isReplacement = some report) :
    s.Leads report.stage := by
  let o : Order := ⟨poster, options, isReplacement⟩
  let begun := (if isReplacement then Click.replace else Click.start) options poster s.loading.run
  let s' : Stage :=
    { s with loading := { s.loading with run := begun.2 }, clicks := s.clicks ++ [begun.1] }
  have hbegin : s.Leads s' := by
    intro scene _ hshows
    have hreaches : Scene.machine.Reaches scene ⟨begun.2, scene.presses ++ [⟨o, begun.1⟩]⟩ := by
      have hbegun : begun = (if isReplacement then Click.replace else Click.start) options poster
          scene.run := by rw [← hshows.run]
      rw [hbegun]
      cases hreplacement : isReplacement with
      | true =>
        have hhandled : o.isHandled = true := by
          have hreplaces : o.isReplacement = true := hreplacement
          rw [Order.isHandled, hreplaces, Bool.true_or]
        exact reaches_replace hhandled scene
      | false =>
        have hclicks : o.isReplacement = false := hreplacement
        exact reaches_start hclicks scene
    refine ⟨_, hreaches, rfl, ?_⟩
    show s.clicks ++ [begun.1] = _
    rw [hshows.clicks, List.map_append]
    rfl
  -- the click that has begun is looked after at once
  obtain ⟨⟨status, events, t⟩, hpoll, ht⟩ := Option.bind_eq_some_iff.1 h
  have hpoll : s'.pollClick s.clicks.length = some (status, events, t) := hpoll
  cases ht
  exact hbegin.trans (leads_pollClick hpoll)

/-! ### Acts -/

/-- **No act of a rehearsal leads out of the scenes.** -/
theorem leads_perform {act : Act} {report : Report} (h : s.perform act = some report) :
    s.Leads report.stage := by
  cases act with
  | metadata numbers =>
    obtain ⟨links, -, rfl⟩ := Option.map_eq_some_iff.1 h
    exact leads_runTasksAfter _ s
  | posters options numbers =>
    obtain ⟨links, -, rfl⟩ := Option.map_eq_some_iff.1 h
    exact (leads_runTasksAfter _ s).trans (leads_of_eq rfl rfl)
  | click number options isReplacement =>
    rw [perform] at h
    split at h
    · exact leads_clickOn h
    · cases h
      exact leads_of_eq rfl rfl
  | poll i =>
    obtain ⟨⟨status, events, t⟩, hpoll, rfl⟩ := Option.map_eq_some_iff.1 h
    exact leads_pollClick hpoll
  | await i =>
    obtain ⟨⟨status, events, t⟩, hawait, rfl⟩ := Option.map_eq_some_iff.1 h
    exact leads_awaitClick hawait
  | signal =>
    cases h
    exact leads_signal s
  | runTasks =>
    cases h
    exact leads_runTasks s
  | release =>
    cases h
    have hreleased : s.Leads { s with loading := { s.loading with isReleased := true } } :=
      leads_of_eq rfl rfl
    exact hreleased.trans (leads_runTasks _)
  | contains spec =>
    cases h
    exact leads_of_eq rfl rfl

/-- What is true of whole runs of scenes is true of each stage that can be come to. -/
theorem exists_acts {supply : Supply} {embedded? : String → Option String} {page : Page}
    {links : List Link} {scriptUrl : String}
    (h : (start supply embedded? page links scriptUrl).Leads s) :
    ∃ acts, s.Shows (Scene.machine.run acts (Scene.ofScript scriptUrl)) := by
  obtain ⟨scene, ⟨acts, rfl⟩, hshows⟩ := h _ (Scene.isSound_ofScript scriptUrl) ⟨rfl, rfl⟩
  exact ⟨acts, hshows⟩

end VideoPosters.Rehearsal.Stage
