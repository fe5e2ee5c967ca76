import VideoPosters.Player.Click
import VideoPosters.Proofs.Player.Agreement

/-!
# Clicks on one page

Any number of clicks share one loader.  Each of them begins with a request of its own, makes
its steps among the steps of the others, and is looked after as often as one likes; in
between the script signals, injections end, and others ask for the player API too.  All of
this is one machine.  Only two things cannot happen: that the loader is let go of while a
page holds it, and that somebody else takes the answer to a click.

## Main definitions

* `Order`, `Press` — a click that was made, and what it has come to.
* `Scene`, `Scene.machine` — the loader and all clicks so far, and the machine they are in.
* `Glance` — what can come of looking after a click.
* `Scene.IsSound` — the invariant of scenes.

## Main results

* `glance` — looking after a click comes to one of these.
* `Scene.keeps_run` — what no act undoes in the run of a loader, no act of a scene undoes.
* `Scene.keeps_isSound` — every act keeps the invariant.
* `Scene.orders_run` — the clicks of a scene are those that were made, in order.
-/

namespace VideoPosters.Player

/-! ### Scenes -/

/-- A click on a poster, as it is made. -/
structure Order where
  poster : Poster
  options : Options
  /-- Whether the poster is replaced whatever a click on it does. -/
  isReplacement : Bool

/-- Whether anything is to be done. -/
def Order.isHandled (o : Order) : Bool := o.isReplacement || o.poster.onclick.isSome

/-- The player that is asked for. -/
def Order.request (o : Order) : PlayerRequest := o.poster.playerRequest o.options

/-- A click that was made, and what it has come to. -/
structure Press extends Order where
  click : Click

/-- Whether a click waits for a request. -/
def Click.awaits (call : Nat) : Click → Bool
  | .waiting i _ => i = call
  | _ => false

/-- The loader of a page, and the clicks so far. -/
structure Scene where
  run : Run
  presses : List Press

/-- The result of asking the page for a player; `refusal` is the reason for which it refuses. -/
def hostOutcome (refusal : Option String) (request : PlayerRequest) :
    Except Failure (Option PlayerRequest) :=
  match refusal with
  | some reason => .error (.foreign reason)
  | none => .ok (some request)

namespace Scene

/-- A page on which nothing has been clicked on. -/
def ofScript (scriptUrl : String) : Scene := ⟨Run.ofScript scriptUrl, []⟩

/-- What can happen on a page. -/
inductive Act where
  /-- A click begins: its request has not made a step. -/
  | press (o : Order)
  /-- Somebody looks what a click has come to; `refusal` is the reason for which the page
  would refuse a player. -/
  | look (i : Nat) (refusal : Option String)
  /-- Something happens to the loader. -/
  | loader (a : Player.Act)

/-- What comes of it. -/
inductive Reply where
  | nothing
  | found (status : Click.Status) (creation : Option Creation)

/-- Whether something can happen to the loader from outside.  Nobody lets go of it, and
nobody else takes the answer to a click. -/
def allows (s : Scene) : Player.Act → Bool
  | .poll call => !s.presses.any (·.click.awaits call)
  | .dropLoader => false
  | _ => true

/-- A click begins. -/
def press (o : Order) (s : Scene) : Scene :=
  if o.isHandled then
    ⟨s.run.call true, s.presses ++ [⟨o, .waiting s.run.calls.length o.request⟩]⟩
  else ⟨s.run, s.presses ++ [⟨o, .idle⟩]⟩

/-- Somebody looks what a click has come to. -/
def look (i : Nat) (refusal : Option String) (s : Scene) : Reply × Scene :=
  match s.presses[i]? with
  | none => (.nothing, s)
  | some p =>
    let (status, creation, click, run) := p.click.poll refusal s.run
    (.found status creation, ⟨run, s.presses.set i { p with click }⟩)

/-- Does an act. -/
def perform : Act → Scene → Reply × Scene
  | .press o, s => (.nothing, s.press o)
  | .look i refusal, s => s.look i refusal
  | .loader a, s =>
    (.nothing, if s.allows a then { s with run := (Run.machine.step a s.run).2 } else s)

/-- The machine of scenes. -/
def machine : Machine Scene Act Reply := ⟨perform⟩

end Scene

/-! ### Looking after a click -/

/-- What can come of looking after a click. -/
inductive Glance (refusal : Option String) (r : Run) (click : Click) :
    Click.Status × Option Creation × Click × Run → Prop where
  | idle (h : click = .idle) : Glance refusal r click (.done (.ok none), none, .finished, r)
  | again (h : click = .finished) : Glance refusal r click (.taken, none, .finished, r)
  /-- The load is not settled, or the request has steps to make. -/
  | early {call request phase} (h : click = .waiting call request)
      (hcall : r.calls[call]? = some ⟨true, phase, false⟩)
      (hearly : r.loader.state.isSettled = true → phase ≠ .waiting) :
      Glance refusal r click (.pending, none, click, r)
  | create {call request handle} (h : click = .waiting call request)
      (hready : r.loader.state = .ready handle) :
      Glance refusal r click (.done (hostOutcome refusal request), some ⟨handle, request⟩,
        .finished, { r with calls := r.calls.set call ⟨true, .waiting, true⟩ })
  | fail {call request reason} (h : click = .waiting call request)
      (hfailed : r.loader.state = .failed reason) :
      Glance refusal r click (.done (.error (.apiLoad reason)), none,
        .finished, { r with calls := r.calls.set call ⟨true, .waiting, true⟩ })

/-- Looking after a request that could start an injection, while the loader is held: it has
no answer yet, or it is told what the load came to. -/
theorem Run.IsOrderly.poll_cases {r : Run} (h : r.IsOrderly) (hheld : r.isHeld = true) {i : Nat}
    {phase : Phase} (hi : r.calls[i]? = some ⟨true, phase, false⟩) :
    (r.poll i = (some .pending, r) ∧ (r.loader.state.isSettled = true → phase ≠ .waiting)) ∨
      ∃ outcome, r.loader.state.outcome? = some outcome ∧
        r.poll i = (some (Answer.ofOutcome outcome),
          { r with calls := r.calls.set i ⟨true, .waiting, true⟩ }) := by
  by_cases hphase : phase = .waiting
  · subst hphase
    have hwaits : r.Waits i := ⟨_, hi, rfl, rfl⟩
    -- who waits is told nothing before the load is settled, since nobody drops the loader
    cases hs : r.loader.state.isSettled with
    | false =>
      have howned : r.isOwned = true := by
        rw [Run.isOwned, hheld]
        rfl
      have hnone := Run.verdict?_of_isOwned hs howned
      exact .inl ⟨hwaits.poll_of_verdict? hnone, fun hsettled => by cases hsettled⟩
    | true =>
      rw [← LoadState.isSome_outcome?] at hs
      obtain ⟨outcome, houtcome⟩ := Option.isSome_iff_exists.1 hs
      refine .inr ⟨outcome, houtcome, ?_⟩
      rw [Run.poll, hi]
      simp only [Bool.false_eq_true, if_false, Run.answerIn_waiting,
        Run.verdict?_of_outcome? houtcome, Option.getD_some]
      cases outcome <;> rfl
  · -- a request that could start an injection is never refused, so it has steps to make
    have hpending : r.answerIn phase = .pending := by
      have hfits := h.fits _ (List.mem_of_getElem? hi)
      cases phase with
      | waiting => exact absurd rfl hphase
      | refused => cases hfits
      | _ => rfl
    refine .inl ⟨?_, fun _ => hphase⟩
    rw [Run.poll, hi]
    simp only [Bool.false_eq_true, if_false, hpending]

/-- Looking after a click comes to one of these. -/
theorem glance {r : Run} (h : r.IsOrderly) (hheld : r.isHeld = true) {click : Click}
    (hcall : ∀ call request, click = .waiting call request →
      ∃ phase, r.calls[call]? = some ⟨true, phase, false⟩) (refusal : Option String) :
    Glance refusal r click (click.poll refusal r) := by
  cases click with
  | idle => exact .idle rfl
  | finished => exact .again rfl
  | waiting call request =>
    obtain ⟨phase, hi⟩ := hcall call request rfl
    rw [Click.poll.eq_def]
    rcases h.poll_cases hheld hi with ⟨heq, hearly⟩ | ⟨outcome, houtcome, heq⟩
    · simp only [heq]
      exact .early rfl hi hearly
    · -- a load that came to something is ready or failed
      cases hstate : r.loader.state with
      | ready handle =>
        rw [hstate] at houtcome
        cases houtcome
        simp only [heq, Answer.ofOutcome]
        exact .create rfl hstate
      | failed reason =>
        rw [hstate] at houtcome
        cases houtcome
        simp only [heq, Answer.ofOutcome]
        exact .fail rfl hstate
      | _ =>
        rw [hstate] at houtcome
        cases houtcome

/-- Looking after a click is looking after its request, if it has one. -/
theorem Click.reaches_poll (refusal : Option String) (click : Click) (r : Run) :
    Run.machine.Reaches r (click.poll refusal r).2.2.2 := by
  cases click with
  | idle => exact .refl r
  | finished => exact .refl r
  | waiting call request =>
    have hpoll := Run.reaches_perform (.poll call) r
    rw [poll.eq_def]
    simp only
    split <;> next heq =>
      rw [Run.perform, heq] at hpoll
      exact hpoll

/-- Looking after a click does nothing to the load. -/
theorem Glance.loader {refusal : Option String} {r : Run} {click : Click}
    {seen : Click.Status × Option Creation × Click × Run} (h : Glance refusal r click seen) :
    seen.2.2.2.loader = r.loader := by
  cases h <;> rfl

/-! ### Requests among other acts -/

namespace Run

/-- A request goes on until somebody takes its answer. -/
theorem exists_call_step {a : Act} {r : Run} {i : Nat} {hasRuntime : Bool} {phase : Phase}
    (hi : r.calls[i]? = some ⟨hasRuntime, phase, false⟩) (ha : a ≠ .poll i) :
    ∃ phase', (machine.step a r).2.calls[i]? = some ⟨hasRuntime, phase', false⟩ := by
  obtain ⟨hlt, -⟩ := List.getElem?_eq_some_iff.1 hi
  cases a with
  | call _ =>
    refine ⟨phase, ?_⟩
    show (r.calls ++ [_])[i]? = _
    rw [List.getElem?_append_left hlt, hi]
  | advance j =>
    show ∃ phase', (r.advance j).calls[i]? = _
    rcases advance_cases j r with heq | ⟨_, _, phase', _, hj, _, heq⟩
    · exact ⟨phase, by rw [heq, hi]⟩
    · rw [heq]
      -- another request that moves leaves this one where it is
      by_cases hij : j = i
      · subst hij
        rw [hi] at hj
        cases hj
        exact ⟨phase', List.getElem?_set_self hlt⟩
      · exact ⟨phase, (List.getElem?_set_ne hij).trans hi⟩
  | poll j =>
    have hij : j ≠ i := fun hij => ha (by rw [hij])
    refine ⟨phase, ?_⟩
    show (r.poll j).2.calls[i]? = _
    rcases poll_run_cases j r with heq | ⟨c, -, -, heq⟩
    · rw [heq, hi]
    · rw [heq]
      exact (List.getElem?_set_ne hij).trans hi
  | signal channel =>
    refine ⟨phase, ?_⟩
    show (r.signalThrough channel).2.calls[i]? = _
    rw [signalThrough_calls, hi]
  | endInjection outcome =>
    refine ⟨phase, ?_⟩
    show (r.endInjection outcome).calls[i]? = _
    rw [endInjection_calls, hi]
  | _ => exact ⟨phase, hi⟩

/-- The loader is held until it is let go of. -/
theorem isHeld_step {a : Act} (ha : a ≠ .dropLoader) (r : Run) :
    (machine.step a r).2.isHeld = r.isHeld := by
  cases a with
  | advance i =>
    show (r.advance i).isHeld = _
    rcases advance_cases i r with heq | ⟨_, _, _, _, _, _, heq⟩ <;> rw [heq]
  | poll i =>
    show (r.poll i).2.isHeld = _
    rcases poll_run_cases i r with heq | ⟨_, _, _, heq⟩ <;> rw [heq]
  | signal channel =>
    show (r.signalThrough channel).2.isHeld = _
    rcases signalThrough_cases channel r with heq | ⟨-, _, heq⟩ | ⟨-, _, _, heq⟩ <;> rw [heq]
  | endInjection outcome =>
    show (r.endInjection outcome).isHeld = _
    rcases endInjection_cases outcome r with heq | ⟨-, heq⟩ | ⟨-, -, _, -, heq⟩ <;> rw [heq]
  | dropLoader => exact absurd rfl ha
  | _ => rfl

end Run

/-! ### The invariant -/

/-- What a click has come to, as its request and the load have it. -/
def Press.Fits (r : Run) (p : Press) : Prop :=
  match p.click with
  | .idle => p.isHandled = false
  | .waiting call request => p.isHandled = true ∧ request = p.request ∧
      ∃ phase, r.calls[call]? = some ⟨true, phase, false⟩
  | .finished => p.isHandled = true → r.loader.state.isSettled = true

/-- The click of this number waits for a request. -/
def Scene.Awaits (s : Scene) (i call : Nat) : Prop :=
  ∃ p, s.presses[i]? = some p ∧ p.click.awaits call = true

/-- The invariant of scenes: what is true whatever has happened. -/
structure Scene.IsSound (s : Scene) : Prop where
  orderly : s.run.IsOrderly
  held : s.run.isHeld = true
  fits : ∀ p ∈ s.presses, p.Fits s.run
  /-- No two clicks wait for one request. -/
  apart : ∀ {i j call}, s.Awaits i call → s.Awaits j call → i = j

/-- Just a click that waits awaits a request. -/
theorem Click.awaits_eq_true_iff {call : Nat} {click : Click} :
    click.awaits call = true ↔ ∃ request, click = .waiting call request := by
  cases click with
  | waiting i request =>
    rw [awaits, decide_eq_true_eq]
    constructor
    · rintro rfl
      exact ⟨request, rfl⟩
    · rintro ⟨request', h⟩
      cases h
      rfl
  | _ => simp [awaits]

namespace Press.Fits

variable {p : Press} {r r' : Run}

/-- A click that waits for nothing has nothing to do. -/
theorem idle (h : p.Fits r) (hclick : p.click = .idle) : p.isHandled = false := by
  unfold Press.Fits at h
  rwa [hclick] at h

/-- A click that waits has something to do, and its request goes on. -/
theorem waiting (h : p.Fits r) {call : Nat} {request : PlayerRequest}
    (hclick : p.click = .waiting call request) :
    p.isHandled = true ∧ request = p.request ∧
      ∃ phase, r.calls[call]? = some ⟨true, phase, false⟩ := by
  unfold Press.Fits at h
  rwa [hclick] at h

/-- A click that had something to do ends when the load is settled. -/
theorem finished (h : p.Fits r) (hclick : p.click = .finished) (hhandled : p.isHandled = true) :
    r.loader.state.isSettled = true := by
  unfold Press.Fits at h
  rw [hclick] at h
  exact h hhandled

/-- What a click has come to stays true while its request goes on and a settled load stays
settled. -/
theorem mono (h : p.Fits r)
    (hcalls : ∀ call phase, p.click.awaits call = true →
      r.calls[call]? = some ⟨true, phase, false⟩ →
        ∃ phase', r'.calls[call]? = some ⟨true, phase', false⟩)
    (hstate : r.loader.state.isSettled = true → r'.loader.state.isSettled = true) :
    p.Fits r' := by
  unfold Press.Fits
  cases hclick : p.click with
  | idle => exact h.idle hclick
  | finished => exact fun hhandled => hstate (h.finished hclick hhandled)
  | waiting call request =>
    obtain ⟨hhandled, hrequest, phase, hphase⟩ := h.waiting hclick
    have hawaits : p.click.awaits call = true := Click.awaits_eq_true_iff.2 ⟨request, hclick⟩
    exact ⟨hhandled, hrequest, hcalls call phase hawaits hphase⟩

end Press.Fits

namespace Scene

variable {s : Scene}

/-- A click that is added awaits what it awaits, and the others what they did. -/
theorem awaits_concat {r : Run} {presses : List Press} {p : Press} {i call : Nat} :
    Awaits ⟨r, presses ++ [p]⟩ i call ↔
      Awaits ⟨r, presses⟩ i call ∨ (i = presses.length ∧ p.click.awaits call = true) := by
  simp only [Awaits]
  -- the number is that of an old click, of the new one or of none
  rcases Nat.lt_trichotomy i presses.length with hlt | rfl | hgt
  · rw [List.getElem?_append_left hlt]
    simp [Nat.ne_of_lt hlt]
  · simp
  · have hlength : (presses ++ [p]).length ≤ i := by
      rw [List.length_append, List.length_singleton]
      omega
    rw [List.getElem?_eq_none hlength, List.getElem?_eq_none (Nat.le_of_lt hgt)]
    simp [Nat.ne_of_gt hgt]

/-- A click that has ended awaits nothing any more, and the others what they did. -/
theorem Awaits.of_set {r r' : Run} {presses : List Press} {p : Press} {i j call : Nat}
    (hp : p.click.awaits call = false) (h : Awaits ⟨r', presses.set i p⟩ j call) :
    Awaits ⟨r, presses⟩ j call := by
  obtain ⟨q, hq, hawaits⟩ := h
  -- the click that ended awaits nothing, so the number is another one
  by_cases hij : i = j
  · subst hij
    have hlt : i < presses.length := by
      have hlt := (List.getElem?_eq_some_iff.1 hq).1
      rwa [List.length_set] at hlt
    have hset : (presses.set i p)[i]? = some p := List.getElem?_set_self hlt
    obtain rfl : p = q := Option.some.inj (hset.symm.trans hq)
    rw [hp] at hawaits
    cases hawaits
  · exact ⟨q, (List.getElem?_set_ne hij).symm.trans hq, hawaits⟩

/-- Looking after a click is looking after its request, if it has one. -/
theorem reaches_look (i : Nat) (refusal : Option String) (s : Scene) :
    Run.machine.Reaches s.run (s.look i refusal).2.run := by
  rw [look]
  split
  · exact .refl _
  · exact Click.reaches_poll refusal _ s.run

theorem isSound_ofScript (scriptUrl : String) : (ofScript scriptUrl).IsSound where
  orderly := Run.isOrderly_ofScript scriptUrl
  held := rfl
  fits _ hp := by cases hp
  apart h := by
    obtain ⟨p, hp, -⟩ := h
    cases hp

namespace IsSound

/-- The request of a click that waits goes on. -/
theorem exists_call (h : s.IsSound) {p : Press} (hp : p ∈ s.presses) (call : Nat)
    (request : PlayerRequest) (hclick : p.click = .waiting call request) :
    ∃ phase, s.run.calls[call]? = some ⟨true, phase, false⟩ :=
  ((h.fits p hp).waiting hclick).2.2

/-- A request that a click awaits has begun. -/
theorem lt_of_awaits (h : s.IsSound) {i call : Nat} (hawaits : s.Awaits i call) :
    call < s.run.calls.length := by
  obtain ⟨p, hp, hcall⟩ := hawaits
  obtain ⟨request, hclick⟩ := Click.awaits_eq_true_iff.1 hcall
  obtain ⟨phase, hphase⟩ := h.exists_call (List.mem_of_getElem? hp) call request hclick
  exact (List.getElem?_eq_some_iff.1 hphase).1

/-- Looking after a click of a scene. -/
theorem glance (h : s.IsSound) {p : Press} (hp : p ∈ s.presses) (refusal : Option String) :
    Glance refusal s.run p.click (p.click.poll refusal s.run) :=
  Player.glance h.orderly h.held (h.exists_call hp) refusal

theorem press (h : s.IsSound) (o : Order) : (s.press o).IsSound := by
  rw [Scene.press]
  split
  · next hhandled =>
    -- the request of the new click is about to look
    have hnew : (s.run.call true).calls[s.run.calls.length]? = some ⟨true, .looking, false⟩ := by
      show (s.run.calls ++ [_])[_]? = _
      rw [List.getElem?_concat_length, h.held]
      rfl
    refine ⟨h.orderly.call true, h.held, fun p hp => ?_, fun {i j call} hi hj => ?_⟩
    · rcases List.mem_append.1 hp with hp | hp
      · refine (h.fits p hp).mono (fun call phase _ hphase => ?_) id
        exact Run.exists_call_step (a := .call true) hphase Player.Act.noConfusion
      · rw [List.mem_singleton.1 hp]
        exact ⟨hhandled, rfl, .looking, hnew⟩
    · -- the request of the new click is later than all others
      have hlater : ∀ {k}, s.Awaits k call → ¬ call = s.run.calls.length := fun hk heq =>
        absurd (h.lt_of_awaits hk) (by omega)
      have hcall : ∀ {request}, (Click.waiting s.run.calls.length request).awaits call = true →
          call = s.run.calls.length := fun hawaits => (of_decide_eq_true hawaits).symm
      rcases awaits_concat.1 hi with hold | ⟨hlast, hnew⟩
      · rcases awaits_concat.1 hj with hold' | ⟨-, hnew'⟩
        · exact h.apart hold hold'
        · exact absurd (hcall hnew') (hlater hold)
      · rcases awaits_concat.1 hj with hold' | ⟨hlast', -⟩
        · exact absurd (hcall hnew) (hlater hold')
        · rw [hlast, hlast']
  · next hhandled =>
    refine ⟨h.orderly, h.held, fun p hp => ?_, fun {i j call} hi hj => ?_⟩
    · rcases List.mem_append.1 hp with hp | hp
      · exact h.fits p hp
      · rw [List.mem_singleton.1 hp]
        exact Bool.eq_false_iff.2 hhandled
    · -- a click without a request awaits none
      have hold : ∀ {k}, Awaits ⟨s.run, s.presses ++ [⟨o, .idle⟩]⟩ k call → s.Awaits k call := by
        intro k hk
        rcases awaits_concat.1 hk with hk | ⟨-, hk⟩
        · exact hk
        · cases hk
      exact h.apart (hold hi) (hold hj)

/-- A click ends: it is marked as finished, and so is its request, if it had one. -/
theorem finish (h : s.IsSound) {i : Nat} {p : Press} (hi : s.presses[i]? = some p)
    (hsettled : p.isHandled = true → s.run.loader.state.isSettled = true) {r : Run}
    (horderly : r.IsOrderly) (hheld : r.isHeld = true) (hloader : r.loader = s.run.loader)
    (hcalls : ∀ call, p.click.awaits call = false → r.calls[call]? = s.run.calls[call]?) :
    IsSound ⟨r, s.presses.set i { p with click := .finished }⟩ := by
  have hold : ∀ {k call}, Awaits ⟨r, s.presses.set i { p with click := .finished }⟩ k call →
      s.Awaits k call := fun hk => hk.of_set rfl
  refine ⟨horderly, hheld, fun q hq => ?_, fun hj hk => h.apart (hold hj) (hold hk)⟩
  obtain ⟨j, hj⟩ := List.mem_iff_getElem?.1 hq
  by_cases hij : i = j
  · subst hij
    have hlt : i < s.presses.length := (List.getElem?_eq_some_iff.1 hi).1
    rw [List.getElem?_set_self hlt] at hj
    obtain rfl := Option.some.inj hj
    show p.isHandled = true → r.loader.state.isSettled = true
    rw [hloader]
    exact hsettled
  · -- another click waits for another request
    rw [List.getElem?_set_ne hij] at hj
    refine (h.fits q (List.mem_of_getElem? hj)).mono (fun call phase hawaits hphase => ?_) ?_
    · have hfree : p.click.awaits call = false := by
        rw [Bool.eq_false_iff]
        intro hp
        exact hij (h.apart ⟨p, hi, hp⟩ ⟨q, hj, hawaits⟩)
      exact ⟨phase, (hcalls call hfree).trans hphase⟩
    · rw [hloader]
      exact id

/-- Looking after a click of a scene: there is none of this number, or it comes to one of
what can come of it. -/
theorem look_cases (h : s.IsSound) (i : Nat) (refusal : Option String) :
    (s.presses[i]? = none ∧ s.look i refusal = (.nothing, s)) ∨
      ∃ p status creation click run, s.presses[i]? = some p ∧
        Glance refusal s.run p.click (status, creation, click, run) ∧
        s.look i refusal =
          (.found status creation, ⟨run, s.presses.set i { p with click }⟩) := by
  rw [Scene.look]
  cases hi : s.presses[i]? with
  | none => exact .inl ⟨rfl, rfl⟩
  | some p =>
    exact .inr ⟨p, _, _, _, _, rfl, h.glance (List.mem_of_getElem? hi) refusal, rfl⟩

theorem look (h : s.IsSound) (i : Nat) (refusal : Option String) :
    (s.look i refusal).2.IsSound := by
  obtain ⟨acts, hacts⟩ := reaches_look i refusal s
  have horderly := Run.keeps_isOrderly.run acts h.orderly
  rw [hacts] at horderly
  rcases h.look_cases i refusal with ⟨-, heq⟩ | ⟨p, status, creation, click, run, hi, hglance, heq⟩
  · rw [heq]
    exact h
  · rw [heq] at horderly ⊢
    have hfits := h.fits p (List.mem_of_getElem? hi)
    have hcalls : ∀ {call request}, p.click = .waiting call request → ∀ {call'},
        p.click.awaits call' = false → (s.run.calls.set call ⟨true, .waiting, true⟩)[call']? =
          s.run.calls[call']? := by
      intro call request hclick call' hfree
      rw [hclick] at hfree
      exact List.getElem?_set_ne (of_decide_eq_false hfree)
    cases hglance with
    | idle hclick =>
      refine h.finish hi (fun hhandled => ?_) h.orderly h.held rfl fun _ _ => rfl
      rw [hfits.idle hclick] at hhandled
      cases hhandled
    | again hclick =>
      exact h.finish hi (hfits.finished hclick) h.orderly h.held rfl fun _ _ => rfl
    | early hclick hcall hearly =>
      show IsSound ⟨s.run, s.presses.set i p⟩
      rw [set_of_getElem? hi]
      exact h
    | create hclick hready =>
      have hsettled : s.run.loader.state.isSettled = true := by rw [hready]; rfl
      exact h.finish hi (fun _ => hsettled) horderly h.held rfl fun _ => hcalls hclick
    | fail hclick hfailed =>
      have hsettled : s.run.loader.state.isSettled = true := by rw [hfailed]; rfl
      exact h.finish hi (fun _ => hsettled) horderly h.held rfl fun _ => hcalls hclick

theorem loader (h : s.IsSound) {a : Player.Act} (ha : s.allows a = true) :
    IsSound { s with run := (Run.machine.step a s.run).2 } := by
  have hheld : a ≠ .dropLoader := by
    rintro rfl
    cases ha
  refine ⟨h.orderly.step a, (Run.isHeld_step hheld s.run).trans h.held, fun p hp => ?_, h.apart⟩
  refine (h.fits p hp).mono (fun call phase hawaits hphase => ?_)
    (Run.keeps_isSettled a s.run)
  refine Run.exists_call_step hphase ?_
  -- nobody else may take the answer to a click
  rintro rfl
  rw [allows, Bool.not_eq_true', List.any_eq_false] at ha
  exact ha p hp hawaits

/-- Every act keeps the invariant. -/
theorem step (h : s.IsSound) (a : Act) : (machine.step a s).2.IsSound := by
  cases a with
  | press o => exact h.press o
  | look i refusal => exact h.look i refusal
  | loader a =>
    show IsSound (if s.allows a then _ else s)
    split
    · next ha => exact h.loader ha
    · exact h

end IsSound

/-- Every act keeps the invariant. -/
theorem keeps_isSound : machine.Keeps IsSound := fun a _ h => h.step a

/-- The invariant holds after every run. -/
theorem isSound_run (scriptUrl : String) (acts : List Act) :
    (machine.run acts (ofScript scriptUrl)).IsSound :=
  keeps_isSound.run acts (isSound_ofScript scriptUrl)

/-! ### What an act does to the load and to the clicks before it -/

/-- An act of a scene does to the load what some acts of its loader do. -/
theorem reaches_step (a : Act) (s : Scene) :
    Run.machine.Reaches s.run (machine.step a s).2.run := by
  cases a with
  | press o =>
    show Run.machine.Reaches s.run (s.press o).run
    rw [press]
    split
    · exact Run.reaches_perform (.call true) s.run
    · exact .refl _
  | look i refusal => exact reaches_look i refusal s
  | loader a =>
    show Run.machine.Reaches s.run (if s.allows a then _ else s).run
    split
    · exact Run.reaches_perform a s.run
    · exact .refl _

theorem reaches_press (o : Order) (s : Scene) : machine.Reaches s (s.press o) :=
  Machine.reaches_step (Act.press o) s

/-- What no act of a loader undoes, no act of a scene undoes. -/
theorem keeps_run {P : Run → Prop} (h : Run.machine.Keeps P) :
    machine.Keeps fun s => P s.run := by
  intro a s hs
  obtain ⟨acts, hacts⟩ := reaches_step a s
  show P (machine.step a s).2.run
  rw [← hacts]
  exact h.run acts hs

/-- The clicks of a scene, as they were made. -/
def orders (s : Scene) : List Order := s.presses.map Press.toOrder

/-- The click that an act makes. -/
def Act.order? : Act → Option Order
  | .press o => some o
  | _ => none

/-- An act adds the click that it makes, and leaves the others as they were made. -/
theorem orders_step (a : Act) (s : Scene) :
    (machine.step a s).2.orders = s.orders ++ a.order?.toList := by
  cases a with
  | press o =>
    show (s.press o).presses.map _ = s.presses.map _ ++ [o]
    rw [press]
    split <;> rw [List.map_append] <;> rfl
  | look i refusal =>
    show (s.look i refusal).2.presses.map _ = s.presses.map _ ++ []
    rw [look, List.append_nil]
    split
    · rfl
    · next p hi =>
      have hmap : (s.presses.map Press.toOrder)[i]? = some p.toOrder := by
        rw [List.getElem?_map, hi]
        rfl
      rw [List.map_set]
      exact set_of_getElem? hmap
  | loader a =>
    show (if s.allows a then _ else s).presses.map _ = s.presses.map _ ++ []
    rw [List.append_nil]
    split <;> rfl

/-- The clicks of a scene are those that were made, in order. -/
theorem orders_run (acts : List Act) (s : Scene) :
    (machine.run acts s).orders = s.orders ++ acts.filterMap Act.order? := by
  induction acts generalizing s with
  | nil => exact (List.append_nil _).symm
  | cons a acts ih =>
    rw [Machine.run_cons, ih, orders_step, List.append_assoc, List.filterMap_cons]
    cases a.order? <;> rfl

/-- A click stays as it was made. -/
theorem keeps_order (i : Nat) (o : Order) : machine.Keeps fun s => s.orders[i]? = some o := by
  intro a s h
  have hlt := (List.getElem?_eq_some_iff.1 h).1
  show (machine.step a s).2.orders[i]? = some o
  rw [orders_step, List.getElem?_append_left hlt]
  exact h

end Scene

end VideoPosters.Player
