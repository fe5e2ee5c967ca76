import VideoPosters.Proofs.Player.Scene

/-!
# Players replace posters safely

However clicks, signals and the ends of injections follow each other: the page is asked for
a player only when the API is ready, and with the one handle of it; each click asks for one
player at most, the one that its poster and options describe, and for just one if the API
gets ready and the click is carried through.

A player is asked for in the step in which a click ends.  What carries the count is that a
click that has something to do ends only when the load is settled, and that a settled load
stays as it is: so whether the click has asked for its player can be read off the scene.

## Main definitions

* `Scene.Found` — a step in which somebody looks what a click has come to.
* `Scene.hasEnded`, `Scene.hasPlayer` — whether a click has ended, and with a player.
* `isCreationBy` — whether a click asks for a player in a step.

## Main results

* `Scene.IsSound.hasPlayer_step` — **a click has a player from the step on in which it asks
  for one.**
* `Scene.IsSound.hasEnded_run` — a click ends when its request has made its steps and the
  load is settled.
* `Scene.clicks_safe` — **what clicks come to, and the players they ask for.**
-/

namespace VideoPosters.Player

/-! ### Requests come to their end -/

/-- How many steps a request still has to make, at most. -/
def Phase.stepsLeft : Phase → Nat
  | .looking => 4
  | .claiming => 3
  | .announcing => 2
  | .starting => 1
  | .waiting => 0
  | .refused => 0

theorem Phase.stepsLeft_le_four (phase : Phase) : phase.stepsLeft ≤ 4 := by
  cases phase <;> decide

/-- A step of a request is one step less to make. -/
theorem Phase.Move.stepsLeft_le {hasRuntime : Bool} {phase phase' : Phase} {l l' : Loader}
    (h : Phase.Move hasRuntime phase l phase' l') : phase'.stepsLeft ≤ phase.stepsLeft - 1 := by
  cases h with
  | rest hdone =>
    cases phase with
    | waiting => exact Nat.le_refl 0
    | refused => exact Nat.le_refl 0
    | _ => cases hdone
  | _ => decide

/-- Who has no step to make has made all steps. -/
theorem Phase.isDone_of_stepsLeft {phase : Phase} (h : phase.stepsLeft = 0) :
    phase.isDone = true := by
  cases phase with
  | waiting => rfl
  | refused => rfl
  | _ => cases h

theorem Run.stepsLeft_advance {r : Run} {i : Nat} {hasRuntime : Bool} {phase : Phase}
    (hi : r.calls[i]? = some ⟨hasRuntime, phase, false⟩) :
    ∃ phase', (r.advance i).calls[i]? = some ⟨hasRuntime, phase', false⟩ ∧
      phase'.stepsLeft ≤ phase.stepsLeft - 1 := by
  obtain ⟨hlt, -⟩ := List.getElem?_eq_some_iff.1 hi
  rw [advance, hi]
  exact ⟨_, List.getElem?_set_self hlt, (phase.move_step hasRuntime r.loader).stepsLeft_le⟩

namespace Scene

/-- A step of a scene. -/
abbrev Step := Machine.Step Scene Act Reply

/-- Steps of a request change nothing but the run, and bring the request to its end. -/
theorem run_advances {s : Scene} {call : Nat} {hasRuntime : Bool} {phase : Phase} (n : Nat)
    (hcall : s.run.calls[call]? = some ⟨hasRuntime, phase, false⟩) :
    let s' := machine.run (List.replicate n (.loader (.advance call))) s
    s'.presses = s.presses ∧ ∃ phase', s'.run.calls[call]? = some ⟨hasRuntime, phase', false⟩ ∧
      phase'.stepsLeft ≤ phase.stepsLeft - n := by
  induction n generalizing s phase with
  | zero => exact ⟨rfl, phase, hcall, Nat.le_refl _⟩
  | succ n ih =>
    obtain ⟨phase', hcall', hfirst⟩ := Run.stepsLeft_advance hcall
    obtain ⟨hpresses, phase'', hcall'', hrest⟩ := ih (s := ⟨s.run.advance call, s.presses⟩) hcall'
    exact ⟨hpresses, phase'', hcall'', by omega⟩

/-! ### Counting players -/

/-- The player that the page is asked for. -/
def Reply.creation? : Reply → Option Creation
  | .nothing => none
  | .found _ creation => creation

/-- Somebody looks what a click has come to. -/
structure Found (x : Step) (i : Nat) (refusal : Option String) (status : Click.Status)
    (creation : Option Creation) : Prop where
  act : x.act = .look i refusal
  reply : x.reply = .found status creation

/-- Whether the API is ready. -/
def isReady (s : Scene) : Bool :=
  match s.run.loader.state with
  | .ready _ => true
  | _ => false

/-- Whether a click has ended. -/
def hasEnded (s : Scene) (i : Nat) : Bool := s.presses[i]?.any (·.click = .finished)

/-- Whether a click has ended and had something to do, and the API is ready. -/
def hasPlayer (s : Scene) (i : Nat) : Bool :=
  s.presses[i]?.any (·.isHandled) && s.hasEnded i && s.isReady

end Scene

/-- Whether a click asks for a player in a step. -/
def isCreationBy (i : Nat) (x : Scene.Step) : Bool :=
  match x.act with
  | .look j _ => decide (j = i) && x.reply.creation?.isSome
  | _ => false

namespace Scene

variable {s s' : Scene}

theorem hasPlayer_of_getElem? {i : Nat} {p : Press} (h : s.presses[i]? = some p) :
    s.hasPlayer i = (p.isHandled && decide (p.click = .finished) && s.isReady) := by
  rw [hasPlayer, hasEnded, h]
  rfl

theorem hasPlayer_of_none {i : Nat} (h : s.presses[i]? = none) : s.hasPlayer i = false := by
  rw [hasPlayer, h]
  rfl

theorem isReady_congr (h : s'.run.loader.state = s.run.loader.state) : s'.isReady = s.isReady := by
  rw [isReady, h, isReady]

/-- Whether a click has a player hangs on the click and on the load alone. -/
theorem hasPlayer_congr {i : Nat} (hpress : s'.presses[i]? = s.presses[i]?)
    (hstate : s'.run.loader.state = s.run.loader.state) : s'.hasPlayer i = s.hasPlayer i := by
  rw [hasPlayer, hasEnded, hpress, isReady_congr hstate, hasPlayer, hasEnded]

/-- A click that is added without a player leaves the others what they have. -/
theorem hasPlayer_concat {r : Run} {p : Press} (hp : p.click ≠ .finished)
    (hstate : r.loader.state = s.run.loader.state) (i : Nat) :
    hasPlayer ⟨r, s.presses ++ [p]⟩ i = s.hasPlayer i := by
  rcases Nat.lt_trichotomy i s.presses.length with hlt | rfl | hgt
  · exact hasPlayer_congr (List.getElem?_append_left hlt) hstate
  · rw [hasPlayer_of_none (s := s) (List.getElem?_eq_none (Nat.le_refl _)),
      hasPlayer_of_getElem? List.getElem?_concat_length]
    simp [hp]
  · have hlength : (s.presses ++ [p]).length ≤ i := by
      rw [List.length_append, List.length_singleton]
      omega
    rw [hasPlayer_of_none (List.getElem?_eq_none hlength),
      hasPlayer_of_none (List.getElem?_eq_none (Nat.le_of_lt hgt))]

theorem hasPlayer_press (o : Order) (s : Scene) (i : Nat) :
    (s.press o).hasPlayer i = s.hasPlayer i := by
  rw [press]
  split
  · exact hasPlayer_concat Click.noConfusion rfl i
  · exact hasPlayer_concat Click.noConfusion rfl i

namespace IsSound

/-- What happens to the loader gives no click a player, and takes none away. -/
theorem hasPlayer_of_state (h : s.IsSound) {r : Run}
    (hstate : s.run.loader.state.isSettled = true → r.loader.state = s.run.loader.state)
    (i : Nat) : hasPlayer ⟨r, s.presses⟩ i = s.hasPlayer i := by
  cases hi : s.presses[i]? with
  | none => rw [hasPlayer_of_none hi, hasPlayer_of_none (s := ⟨r, s.presses⟩) hi]
  | some p =>
    rw [hasPlayer_of_getElem? hi, hasPlayer_of_getElem? (s := ⟨r, s.presses⟩) hi]
    cases hdone : p.isHandled && decide (p.click = .finished) with
    | false => rfl
    | true =>
      rw [Bool.and_eq_true, decide_eq_true_eq] at hdone
      -- a click that ended found the load settled, so whether the API is ready is decided
      have hfits := h.fits p (List.mem_of_getElem? hi)
      rw [isReady_congr (hstate (hfits.finished hdone.2 hdone.1))]

/-- A look gives a player to the click that asks for one in it. -/
theorem hasPlayer_look (h : s.IsSound) (i j : Nat) (refusal : Option String) :
    (s.hasPlayer i).toNat +
        (decide (j = i) && (s.look j refusal).1.creation?.isSome).toNat =
      ((s.look j refusal).2.hasPlayer i).toNat := by
  rcases h.look_cases j refusal with
    ⟨-, heq⟩ | ⟨p, status, creation, click, run, hj, hglance, heq⟩
  · rw [heq]
    simp [Reply.creation?]
  · have hloader : run.loader = s.run.loader := hglance.loader
    rw [heq]
    by_cases hij : j = i
    · -- the click that is looked after
      subst hij
      have hlt := (List.getElem?_eq_some_iff.1 hj).1
      have hready : isReady ⟨run, s.presses.set j { p with click }⟩ = s.isReady :=
        isReady_congr (congrArg Loader.state hloader)
      have hfits := h.fits p (List.mem_of_getElem? hj)
      rw [hasPlayer_of_getElem? hj, hasPlayer_of_getElem? (List.getElem?_set_self hlt), hready]
      cases hglance with
      | idle hclick => simp [hclick, hfits.idle hclick, Reply.creation?]
      | again hclick => simp [hclick, Reply.creation?]
      | early hclick _ _ => simp [Reply.creation?]
      | create hclick hstate =>
        simp [hclick, (hfits.waiting hclick).1, Reply.creation?, isReady, hstate]
      | fail hclick hstate => simp [hclick, Reply.creation?, isReady, hstate]
    · -- a look after another click changes nothing about this one
      have hsame : hasPlayer ⟨run, s.presses.set j { p with click }⟩ i = s.hasPlayer i :=
        hasPlayer_congr (List.getElem?_set_ne hij) (congrArg Loader.state hloader)
      rw [hsame]
      simp [hij]

/-- **A click has a player from the step on in which it asks for one.** -/
theorem hasPlayer_step (h : s.IsSound) (i : Nat) (a : Act) :
    (s.hasPlayer i).toNat + (isCreationBy i (machine.take a s)).toNat =
      ((machine.step a s).2.hasPlayer i).toNat := by
  cases a with
  | press o =>
    show (s.hasPlayer i).toNat + 0 = ((s.press o).hasPlayer i).toNat
    rw [hasPlayer_press, Nat.add_zero]
  | look j refusal => exact h.hasPlayer_look i j refusal
  | loader a =>
    show (s.hasPlayer i).toNat + 0 = (hasPlayer (if s.allows a then _ else s) i).toNat
    split
    · rw [h.hasPlayer_of_state (fun hsettled => Run.keeps_state hsettled a s.run rfl) i,
        Nat.add_zero]
    · rfl

/-- A click ends when its request has made its steps, the load is settled, and somebody
looks. -/
theorem hasEnded_run (h : s.IsSound) {i call : Nat} {o : Order} {request : PlayerRequest}
    (hi : s.presses[i]? = some ⟨o, .waiting call request⟩)
    (hsettled : s.run.loader.state.isSettled = true) (refusal : Option String) :
    (machine.run (List.replicate 4 (.loader (.advance call)) ++ [.look i refusal]) s).hasEnded i =
      true := by
  obtain ⟨phase, hphase⟩ := h.exists_call (List.mem_of_getElem? hi) call request rfl
  obtain ⟨hpresses, phase', hcall, hleft⟩ := run_advances 4 hphase
  have hsound := keeps_isSound.run (List.replicate 4 (.loader (.advance call))) h
  have hstill := (keeps_run Run.keeps_isSettled).run
    (List.replicate 4 (.loader (.advance call))) hsettled
  rw [Machine.run_append]
  generalize machine.run (List.replicate 4 (.loader (.advance call))) s = s' at *
  -- the request has made its steps and could start an injection, so it waits
  have hwaiting : phase' = .waiting := by
    have hdone : phase'.isDone = true := by
      have hfour := phase.stepsLeft_le_four
      exact Phase.isDone_of_stepsLeft (by omega)
    have hfits := hsound.orderly.fits _ (List.mem_of_getElem? hcall)
    cases phase' with
    | waiting => rfl
    | refused => cases hfits
    | _ => cases hdone
  subst hwaiting
  rw [← hpresses] at hi
  show (s'.look i refusal).2.hasEnded i = true
  rcases hsound.look_cases i refusal with
    ⟨hnone, -⟩ | ⟨p, status, creation, click, run, hp, hglance, heq⟩
  · rw [hi] at hnone
    cases hnone
  · rw [hi] at hp
    cases hp
    have hended : click = .finished := by
      cases hglance with
      | idle hclick => cases hclick
      | again hclick => cases hclick
      | early hclick hcall' hearly =>
        cases hclick
        rw [hcall] at hcall'
        cases hcall'
        exact absurd rfl (hearly hstill)
      | create _ _ => rfl
      | fail _ _ => rfl
    have hlt := (List.getElem?_eq_some_iff.1 hi).1
    rw [heq, hasEnded, List.getElem?_set_self hlt, hended]
    rfl

end IsSound

/-! ### Whole runs -/

variable {scriptUrl : String} {acts : List Act} {x : Step}

/-- The load that an act finds settled is found so at the end. -/
theorem state_run (hx : x ∈ machine.steps acts (ofScript scriptUrl)) {state : LoadState}
    (hsettled : state.isSettled = true) (hstate : x.before.run.loader.state = state) :
    (machine.run acts (ofScript scriptUrl)).run.loader.state = state :=
  (keeps_run (Run.keeps_state hsettled)).atEnd hx hstate

/-- Who looks after a click finds the player that is asked for. -/
theorem exists_found (i : Nat) (refusal : Option String) (s : Scene)
    (h : (s.look i refusal).1.creation?.isSome = true) :
    ∃ status creation, Found (machine.take (.look i refusal) s) i refusal status (some creation) := by
  cases hreply : (s.look i refusal).1 with
  | nothing =>
    rw [hreply] at h
    cases h
  | found status creation =>
    rw [hreply] at h
    obtain ⟨creation, rfl⟩ := Option.isSome_iff_exists.1 h
    exact ⟨status, creation, rfl, hreply⟩

/-- What somebody finds who looks after a click: it was made in the run, and what is found
is what can come of it. -/
theorem glance_of_found (hx : x ∈ machine.steps acts (ofScript scriptUrl)) {i : Nat}
    {refusal : Option String} {status : Click.Status} {creation : Option Creation}
    (h : Found x i refusal status creation) :
    ∃ (p : Press) (click : Click), (acts.filterMap Act.order?)[i]? = some p.toOrder ∧
      p.Fits x.before.run ∧
      Glance refusal x.before.run p.click (status, creation, click, x.after.run) := by
  have htake := Machine.eq_take_of_mem hx
  have hsound := keeps_isSound.before (isSound_ofScript scriptUrl) hx
  obtain ⟨hact, hreply⟩ := h
  rw [hact] at htake
  rcases hsound.look_cases i refusal with
    ⟨-, heq⟩ | ⟨p, status', creation', click, run, hp, hglance, heq⟩
  · -- where there is no click, nothing is found
    rw [htake] at hreply
    have hnothing : (x.before.look i refusal).1 = .found status creation := hreply
    rw [heq] at hnothing
    cases hnothing
  · have hfound : (x.before.look i refusal).1 = .found status creation := by
      rw [htake] at hreply
      exact hreply
    have hafter : x.after.run = run := by
      rw [htake]
      show (x.before.look i refusal).2.run = run
      rw [heq]
    -- the click stays among those that were made, so it is one of the whole run
    have hmade : x.before.orders[i]? = some p.toOrder := by
      rw [orders, List.getElem?_map, hp]
      rfl
    have horder := (keeps_order i p.toOrder).atEnd hx hmade
    rw [orders_run] at horder
    rw [heq] at hfound
    cases hfound
    exact ⟨p, click, horder, hsound.fits p (List.mem_of_getElem? hp), hafter ▸ hglance⟩

/-- A player is asked for when the API is ready, with its one handle, and as the poster and
the options of the click describe it. -/
theorem creation_of_found (hx : x ∈ machine.steps acts (ofScript scriptUrl)) {i : Nat}
    {refusal : Option String} {status : Click.Status} {creation : Creation}
    (h : Found x i refusal status (some creation)) :
    x.before.run.loader.state = .ready creation.handle ∧
      (machine.run acts (ofScript scriptUrl)).run.loader.state = .ready creation.handle ∧
      ∃ o, (acts.filterMap Act.order?)[i]? = some o ∧ o.isHandled = true ∧
        creation.request = o.request := by
  obtain ⟨p, click, hi, hfits, hglance⟩ := glance_of_found hx h
  generalize x.after.run = run at hglance
  cases hglance with
  | create hclick hready =>
    obtain ⟨hhandled, hrequest, -⟩ := hfits.waiting hclick
    exact ⟨hready, state_run hx rfl hready, p.toOrder, hi, hhandled, hrequest⟩

/-- What a click with something to do comes to: its player, or what the page says, or the
reason for which the load failed. -/
theorem outcome_of_found (hx : x ∈ machine.steps acts (ofScript scriptUrl)) {i : Nat}
    {refusal : Option String} {outcome : Except Failure (Option PlayerRequest)}
    {creation : Option Creation} {o : Order} (h : Found x i refusal (.done outcome) creation)
    (hi : (acts.filterMap Act.order?)[i]? = some o) (ho : o.isHandled = true) :
    let state := (machine.run acts (ofScript scriptUrl)).run.loader.state
    (∃ handle, state = .ready handle ∧ creation = some ⟨handle, o.request⟩ ∧
        outcome = hostOutcome refusal o.request) ∨
      (∃ reason, state = .failed reason ∧ creation = none ∧
        outcome = .error (.apiLoad reason)) := by
  intro state
  obtain ⟨p, click, hmade, hfits, hglance⟩ := glance_of_found hx h
  rw [hi] at hmade
  obtain rfl := Option.some.inj hmade
  generalize hstatus : Click.Status.done outcome = status, x.after.run = run at hglance
  -- a click with something to do is not idle, and it has no outcome before it has ended
  cases hglance with
  | idle hclick =>
    rw [hfits.idle hclick] at ho
    cases ho
  | again _ => cases hstatus
  | early _ _ _ => cases hstatus
  | create hclick hready =>
    cases hstatus
    obtain ⟨-, rfl, -⟩ := hfits.waiting hclick
    exact .inl ⟨_, state_run hx rfl hready, rfl, rfl⟩
  | fail _ hfailed =>
    cases hstatus
    exact .inr ⟨_, state_run hx rfl hfailed, rfl, rfl⟩

/-- A click without anything to do leaves the loader and the page alone. -/
theorem idle_of_found (hx : x ∈ machine.steps acts (ofScript scriptUrl)) {i : Nat}
    {refusal : Option String} {status : Click.Status} {creation : Option Creation} {o : Order}
    (h : Found x i refusal status creation) (hi : (acts.filterMap Act.order?)[i]? = some o)
    (ho : o.isHandled = false) :
    x.after.run = x.before.run ∧ creation = none ∧
      ∀ outcome, status = .done outcome → outcome = .ok none := by
  obtain ⟨p, click, hmade, hfits, hglance⟩ := glance_of_found hx h
  rw [hi] at hmade
  obtain rfl := Option.some.inj hmade
  generalize x.after.run = run at hglance ⊢
  cases hglance with
  | idle _ => exact ⟨rfl, rfl, fun outcome h => (Click.Status.done.inj h).symm⟩
  | again _ => exact ⟨rfl, rfl, fun outcome h => by cases h⟩
  | early _ _ _ => exact ⟨rfl, rfl, fun outcome h => by cases h⟩
  | create hclick _ =>
    -- a click without anything to do waits for nothing
    rw [(hfits.waiting hclick).1] at ho
    cases ho
  | fail hclick _ =>
    rw [(hfits.waiting hclick).1] at ho
    cases ho

/-- A click asks for one player if it has something to do, has ended, and the API is ready, and
for none otherwise. -/
theorem countP_creations (scriptUrl : String) (acts : List Act) {i : Nat} {o : Order}
    (hi : (acts.filterMap Act.order?)[i]? = some o) :
    let s := machine.run acts (ofScript scriptUrl)
    (machine.steps acts (ofScript scriptUrl)).countP (isCreationBy i) =
      if o.isHandled && s.hasEnded i && s.isReady then 1 else 0 := by
  intro s
  have hcount := Machine.add_countP_steps (f := fun s : Scene => (s.hasPlayer i).toNat)
    keeps_isSound (fun a s hs => hs.hasPlayer_step i a) acts (isSound_ofScript scriptUrl)
  have hstart : (ofScript scriptUrl).hasPlayer i = false := rfl
  have horders : s.orders[i]? = some o := by
    rw [orders_run]
    exact hi
  obtain ⟨p, hp, rfl⟩ := Option.map_eq_some_iff.1 (List.getElem?_map.symm.trans horders)
  have hplayer : s.hasPlayer i = (p.isHandled && s.hasEnded i && s.isReady) := by
    rw [hasPlayer, hp]
    rfl
  -- no click has a player at the start, so the count is that of the end alone
  rw [hstart, Bool.toNat_false, Nat.zero_add] at hcount
  rw [← hplayer, hcount]
  cases s.hasPlayer i <;> rfl

/-- **What clicks come to, and the players they ask for.**  Whatever happens on a page, and in
whatever order: the page is asked for a player only when the API is ready, with the handle
that it has at the end, and for the player that the poster and the options of the click
describe.  A click asks for just one player if it has something to do, has ended, and the
API is ready, and for none otherwise.  A click with something to do ends when its request
has made its steps, the load is settled, and somebody looks; it comes to the player, or to
the reason for which the page refuses it, or to the reason for which the load failed.  A click
without anything to do leaves the loader alone and comes to nothing.  And the script is
injected once at most. -/
theorem clicks_safe (scriptUrl : String) (acts : List Act) :
    let s := machine.run acts (ofScript scriptUrl)
    let history := machine.steps acts (ofScript scriptUrl)
    let clicks := acts.filterMap Act.order?
    (∀ x ∈ history, ∀ i refusal status creation, Found x i refusal status (some creation) →
      x.before.run.loader.state = .ready creation.handle ∧
      s.run.loader.state = .ready creation.handle ∧
      ∃ o, clicks[i]? = some o ∧ o.isHandled = true ∧
        creation.request = ⟨o.poster.videoId,
          "#" ++ o.poster.posterId ++ " " ++ o.options.posterSelector, o.options.playerWidth,
          o.options.playerHeight⟩) ∧
    (∀ i o, clicks[i]? = some o → history.countP (isCreationBy i) =
      if o.isHandled && s.hasEnded i && s.isReady then 1 else 0) ∧
    (∀ i o call request refusal, s.presses[i]? = some ⟨o, .waiting call request⟩ →
      s.run.loader.state.isSettled = true →
      (machine.run (List.replicate 4 (.loader (.advance call)) ++ [.look i refusal]) s).hasEnded i =
        true) ∧
    (∀ x ∈ history, ∀ i refusal outcome creation o, Found x i refusal (.done outcome) creation →
      clicks[i]? = some o → o.isHandled = true →
      (∃ handle, s.run.loader.state = .ready handle ∧ creation = some ⟨handle, o.request⟩ ∧
        outcome = hostOutcome refusal o.request) ∨
      (∃ reason, s.run.loader.state = .failed reason ∧ creation = none ∧
        outcome = .error (.apiLoad reason))) ∧
    (∀ x ∈ history, ∀ o, o.isHandled = false →
      (x.act = .press o → x.after.run = x.before.run) ∧
      ∀ i refusal status creation, Found x i refusal status creation → clicks[i]? = some o →
        x.after.run = x.before.run ∧ creation = none ∧
          ∀ outcome, status = .done outcome → outcome = .ok none) ∧
    s.run.loader.injections ≤ 1 := by
  intro s history clicks
  have hsound : s.IsSound := isSound_run scriptUrl acts
  refine ⟨?_, ?_, ?_, ?_, ?_, hsound.orderly.injections_le_one⟩
  · intro x hx i refusal status creation hfound
    exact creation_of_found hx hfound
  · intro i o hi
    exact countP_creations scriptUrl acts hi
  · intro i o call request refusal hi hsettled
    exact hsound.hasEnded_run hi hsettled refusal
  · intro x hx i refusal outcome creation o hfound hi ho
    exact outcome_of_found hx hfound hi ho
  · intro x hx o ho
    constructor
    · intro hact
      rw [Machine.eq_take_of_mem hx, hact]
      show (x.before.press o).run = x.before.run
      rw [press, if_neg (Bool.eq_false_iff.1 ho)]
    · intro i refusal status creation hfound hi
      exact idle_of_found hx hfound hi ho

/-- Three clicks, the second on a poster without a click handler.  The requests of the two
others overlap, the script signals before either of them waits, and the page refuses the
first of the players. -/
theorem clicks_safe_overlap :
    let poster (id : String) (onclick : Option ClickHandler) : Poster :=
      ⟨Video.ofItem ⟨id, none, none, []⟩, "", none, onclick⟩
    let order (p : Poster) : Order := ⟨p, .ofTemplate (.compiled []), false⟩
    let start := ofScript "https://www.youtube.com/iframe_api"
    let before : List Act := [.press (order (poster "a" (some .replacePoster))),
      .press (order (poster "b" none)), .press (order (poster "c" (some .replacePoster))),
      .loader (.advance 0), .loader (.advance 1), .loader (.advance 0), .loader (.advance 1),
      .look 0 none, .loader (.signal none), .loader (.advance 0), .loader (.advance 0),
      .look 0 (some "blocked"), .look 1 none]
    let acts := before ++ [.look 2 none, .look 0 none]
    let history := machine.steps acts start
    history.countP (isCreationBy 0) = 1 ∧ history.countP (isCreationBy 1) = 0 ∧
      history.countP (isCreationBy 2) = 1 ∧
      ∃ x ∈ history, ∃ status creation, Found x 2 none status (some creation) ∧
        x.before.run.loader.state = .ready creation.handle ∧
        creation.request.target = "#autotube-poster-c .autotube-player" := by
  intro poster order start before acts history
  obtain ⟨hcreation, hcount, -, -, -, -⟩ :=
    clicks_safe "https://www.youtube.com/iframe_api" acts
  -- the look after the third click
  have hx := machine.take_mem_steps before (.look 2 none) [.look 0 none] start
  obtain ⟨status, creation, hfound⟩ :=
    exists_found 2 none (machine.run before start) (by decide +kernel)
  obtain ⟨hready, -, o, ho, -, hrequest⟩ := hcreation _ hx 2 none status creation hfound
  obtain rfl : order (poster "c" (some .replacePoster)) = o := Option.some.inj ho
  refine ⟨(hcount 0 _ rfl).trans (by decide +kernel), (hcount 1 _ rfl).trans (by decide +kernel),
    (hcount 2 _ rfl).trans (by decide +kernel), _, hx, status, creation, hfound, hready, ?_⟩
  rw [hrequest]
  decide +kernel

end Scene

end VideoPosters.Player
