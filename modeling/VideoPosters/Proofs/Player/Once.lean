import VideoPosters.Proofs.Lists
import VideoPosters.Proofs.Player.Steps

/-!
# The player API is loaded once

Two pieces of a loader change in separate steps: the claim of the injection and the state
of the load.  Signals and the ends of injections may fall between any two steps of a
request, also before the first request.  The invariant that joins the two pieces counts
the requests that are on their way from the claim to the injection: together with the
injections started so far there is one of them once the injection is claimed, and none
before.

## Main definitions

* `LoadState.Move` — how a load can move on.
* `Run.IsOrderly` — the invariant of runs.
* `Run.isIdle`, `isRequest`, `isWin` — what the main result counts.

## Main results

* `Run.IsOrderly.step` — every act keeps the invariant.
* `Run.IsOrderly.move` — every act leaves the load where it is or moves it on.
* `Run.load_once` — **the script is injected once at most, and the load is settled once
  at most.**
-/

namespace VideoPosters.Player

/-! ### How a load moves on -/

/-- How a load can move on. -/
inductive LoadState.Move : LoadState → LoadState → Prop where
  | request : Move .notRequested .pending
  /-- The script can be ready before it is requested. -/
  | early (handle : Handle) : Move .notRequested (.ready handle)
  | ready (handle : Handle) : Move .pending (.ready handle)
  | fail (reason : String) : Move .pending (.failed reason)

namespace LoadState

variable {state state' : LoadState}

/-- A load that is not settled can become ready. -/
theorem move_ready (h : state.isSettled = false) (handle : Handle) :
    Move state (.ready handle) := by
  cases state with
  | notRequested => exact .early handle
  | pending => exact .ready handle
  | ready _ => cases h
  | failed _ => cases h

/-- A load that was requested and is not settled can fail. -/
theorem move_failed (h : state.isSettled = false) (hr : state ≠ .notRequested)
    (reason : String) : Move state (.failed reason) := by
  cases state with
  | notRequested => exact absurd rfl hr
  | pending => exact .fail reason
  | ready _ => cases h
  | failed _ => cases h

/-- A load that has moved on was requested, or ready before. -/
theorem Move.ne_notRequested (h : Move state state') : state' ≠ .notRequested := by
  cases h <;> exact LoadState.noConfusion

end LoadState

/-! ### Requests -/

/-- Whether a request has claimed the injection and not started it yet. -/
def Phase.isInjecting : Phase → Bool
  | .announcing | .starting => true
  | _ => false

/-- Whether a request has claimed the injection and not started it yet. -/
def Call.isInjecting (c : Call) : Bool := !c.taken && c.phase.isInjecting

/-- Whether a request was made and could start an injection; the place of a request that
could not be made stays empty. -/
def Call.isFromRuntime (c : Call) : Bool := c.hasRuntime && (!c.taken || c.phase.isDone)

/-- What the phase of a request says about the loader. -/
def Phase.Fits (hasRuntime : Bool) (l : Loader) : Phase → Prop
  | .looking => True
  | .claiming => hasRuntime = true
  | .announcing => l.claimed = true
  | .starting => l.claimed = true ∧ l.state ≠ .notRequested
  | .waiting => l.claimed = true
  | .refused => hasRuntime = false

/-- A loader does not go back behind a claim or a request. -/
structure Loader.Grows (l l' : Loader) : Prop where
  claimed : l.claimed = true → l'.claimed = true
  requested : l.state ≠ .notRequested → l'.state ≠ .notRequested

namespace Phase

variable {hasRuntime : Bool} {phase phase' : Phase} {l l' : Loader}

/-- What a phase says stays true while the loader grows. -/
theorem Fits.mono (h : phase.Fits hasRuntime l) (hl : l.Grows l') :
    phase.Fits hasRuntime l' := by
  cases phase with
  | looking => exact h
  | claiming => exact h
  | announcing => exact hl.claimed h
  | starting => exact ⟨hl.claimed h.1, hl.requested h.2⟩
  | waiting => exact hl.claimed h
  | refused => exact h

namespace Move

/-- A step of a request leaves the load where it is or moves it on. -/
theorem state_move (h : Phase.Move hasRuntime phase l phase' l') :
    l'.state = l.state ∨ l.state.Move l'.state := by
  cases h with
  | announce h =>
    right
    rw [h]
    exact .request
  | _ => exact .inl rfl

/-- A step of a request lets the loader grow. -/
theorem grows (h : Phase.Move hasRuntime phase l phase' l') : l.Grows l' := by
  refine ⟨fun hc => ?_, fun hs => ?_⟩
  · cases h with
    | claim _ => rfl
    | _ => exact hc
  · rcases h.state_move with heq | hmove
    · rw [heq]
      exact hs
    · exact hmove.ne_notRequested

/-- What the phase of a request says is true after its step if it was before. -/
theorem fits (h : Phase.Move hasRuntime phase l phase' l') (hf : phase.Fits hasRuntime l) :
    phase'.Fits hasRuntime l' := by
  cases h with
  | join h => exact h
  | attempt _ hr => exact hr
  | refuse _ hr => exact hr
  | lose h => exact h
  | claim _ => rfl
  | announce _ => exact ⟨hf, LoadState.noConfusion⟩
  | pass h => exact ⟨hf, h⟩
  | start => exact hf.1
  | rest _ => exact hf

/-- Who claims the injection, or starts it, is on the way between the two. -/
theorem count (h : Phase.Move hasRuntime phase l phase' l') :
    phase'.isInjecting.toNat + l'.injections + l.claimed.toNat =
      phase.isInjecting.toNat + l.injections + l'.claimed.toNat := by
  cases h with
  | claim h =>
    simp only [isInjecting, h, Bool.toNat_true, Bool.toNat_false]
    omega
  | start =>
    simp only [isInjecting, Bool.toNat_true, Bool.toNat_false]
    omega
  | _ => rfl

/-- An injection is started only after the load was requested, or ready before. -/
theorem injections (h : Phase.Move hasRuntime phase l phase' l')
    (hf : phase.Fits hasRuntime l) :
    l'.injections = l.injections ∨ l'.state ≠ .notRequested := by
  cases h with
  | start => exact .inr hf.2
  | _ => exact .inl rfl

/-- The injection is claimed only by a request that can start it. -/
theorem claimed (h : Phase.Move hasRuntime phase l phase' l')
    (hf : phase.Fits hasRuntime l) (hl : l'.claimed = true) :
    l.claimed = true ∨ hasRuntime = true := by
  cases h with
  | claim _ => exact .inr hf
  | _ => exact .inl hl

end Move

/-- A request that has made all its steps is not on the way to an injection. -/
theorem isInjecting_of_isDone (h : phase.isDone = true) : phase.isInjecting = false := by
  cases phase with
  | waiting => rfl
  | refused => rfl
  | _ => cases h

end Phase

/-! ### The invariant -/

namespace Run

/-- Whether a request was made that could start an injection. -/
def wasRequested (r : Run) : Bool := r.calls.any Call.isFromRuntime

/-- The invariant of runs: what is true whatever has happened. -/
structure IsOrderly (r : Run) : Prop where
  fits : ∀ c ∈ r.calls, c.phase.Fits c.hasRuntime r.loader
  /-- Whoever claims the injection is on the way to start it, or has started it. -/
  count : r.calls.countP Call.isInjecting + r.loader.injections = r.loader.claimed.toNat
  requested : 0 < r.loader.injections → r.loader.state ≠ .notRequested
  claimed : r.loader.claimed = true → r.wasRequested = true

variable {r r' : Run}

theorem isOrderly_ofScript (scriptUrl : String) : (ofScript scriptUrl).IsOrderly where
  fits _ hc := by cases hc
  count := rfl
  requested h := absurd h (Nat.lt_irrefl 0)
  claimed h := by cases h

namespace IsOrderly

/-- The invariant does not mind what happens to the load, as long as it was requested. -/
theorem of_loader (h : r.IsOrderly) (hcalls : r'.calls = r.calls)
    (hclaimed : r'.loader.claimed = r.loader.claimed)
    (hinjections : r'.loader.injections = r.loader.injections)
    (hstate : r.loader.state ≠ .notRequested → r'.loader.state ≠ .notRequested) :
    r'.IsOrderly where
  fits c hc := by
    -- what a request relies on only grows with the loader
    have hgrows : r.loader.Grows r'.loader := ⟨fun hr => hclaimed.trans hr, hstate⟩
    rw [hcalls] at hc
    exact (h.fits c hc).mono hgrows
  count := by rw [hcalls, hinjections, hclaimed, h.count]
  requested hi := hstate (h.requested (by rw [← hinjections]; exact hi))
  claimed hr := by
    rw [wasRequested, hcalls]
    exact h.claimed (hclaimed.symm.trans hr)

theorem call (h : r.IsOrderly) (hasRuntime : Bool) : (r.call hasRuntime).IsOrderly where
  fits c hc := by
    rcases List.mem_append.1 hc with hc | hc
    · exact h.fits c hc
    · rw [List.mem_singleton.1 hc]
      exact trivial
  count := by
    rw [Run.call, List.countP_append, ← h.count]
    cases r.isHeld <;> rfl
  requested := h.requested
  claimed hr := by
    have hwanted := h.claimed hr
    rw [wasRequested] at hwanted ⊢
    rw [Run.call, List.any_append, hwanted, Bool.true_or]

theorem advance (h : r.IsOrderly) (i : Nat) : (r.advance i).IsOrderly := by
  rcases advance_cases i r with heq | ⟨hasRuntime, phase, phase', l, hi, hmove, heq⟩
  · rw [heq]
    exact h
  · have hmem := List.mem_of_getElem? hi
    have hfits := h.fits _ hmem
    rw [heq]
    constructor
    · intro c hc
      rcases List.mem_or_eq_of_mem_set hc with hc | rfl
      · exact (h.fits c hc).mono hmove.grows
      · exact hmove.fits hfits
    · -- the count moves with the one request that makes the step
      have hset := countP_set_add Call.isInjecting hi ⟨hasRuntime, phase', false⟩
      have hold := h.count
      have hnew := hmove.count
      simp only [Call.isInjecting, Bool.not_false, Bool.true_and] at hset hold ⊢
      omega
    · intro hpos
      rcases hmove.injections hfits with hsame | hstate
      · exact hmove.grows.requested (h.requested (Nat.lt_of_lt_of_eq hpos hsame))
      · exact hstate
    · intro hclaimed
      -- a step does not change what a request was made with
      have hset := any_set_of_eq (p := Call.isFromRuntime) (b := ⟨hasRuntime, phase', false⟩) hi rfl
      rw [wasRequested, hset]
      rcases hmove.claimed hfits hclaimed with hold | hruntime
      · exact h.claimed hold
      · exact List.any_eq_true.2 ⟨_, hmem, by rw [hruntime]; rfl⟩

theorem poll (h : r.IsOrderly) (i : Nat) : (r.poll i).2.IsOrderly := by
  rcases poll_run_cases i r with heq | ⟨c, hi, hdone, heq⟩
  · rw [heq]
    exact h
  · rw [heq]
    constructor
    · intro d hd
      rcases List.mem_or_eq_of_mem_set hd with hd | rfl
      · exact h.fits d hd
      · exact h.fits c (List.mem_of_getElem? hi)
    · have hset := countP_set_add Call.isInjecting hi { c with taken := true }
      -- who is looked after is done, so it is not the one between claim and injection
      simp only [Call.isInjecting, Phase.isInjecting_of_isDone hdone, Bool.and_false] at hset
      exact (congrArg (· + r.loader.injections) (Nat.add_right_cancel hset)).trans h.count
    · exact h.requested
    · intro hclaimed
      have hset := any_set_of_eq (p := Call.isFromRuntime) (b := { c with taken := true }) hi
        (by rw [Call.isFromRuntime, Call.isFromRuntime, hdone, Bool.or_true, Bool.or_true])
      rw [wasRequested, hset]
      exact h.claimed hclaimed

theorem signalThrough (h : r.IsOrderly) (channel : Option Nat) :
    (r.signalThrough channel).2.IsOrderly := by
  rcases signalThrough_cases channel r with heq | ⟨-, n, heq⟩ | ⟨-, handle, n, heq⟩
  · rw [heq]
    exact h
  · rw [heq]
    exact h.of_loader rfl rfl rfl id
  · rw [heq]
    exact h.of_loader rfl rfl rfl fun _ => LoadState.noConfusion

theorem endInjection (h : r.IsOrderly) (outcome : Except String Unit) :
    (r.endInjection outcome).IsOrderly := by
  rcases endInjection_cases outcome r with heq | ⟨-, heq⟩ | ⟨-, -, reason, -, heq⟩
  · rw [heq]
    exact h
  · rw [heq]
    exact h.of_loader rfl rfl rfl id
  · rw [heq]
    exact h.of_loader rfl rfl rfl fun _ => LoadState.noConfusion

/-- Every act keeps the invariant. -/
theorem step (h : r.IsOrderly) (a : Act) : (machine.step a r).2.IsOrderly := by
  cases a with
  | call hasRuntime => exact h.call hasRuntime
  | advance i => exact h.advance i
  | poll i => exact h.poll i
  | signal channel => exact h.signalThrough channel
  | endInjection outcome => exact h.endInjection outcome
  | openChannel => exact h.of_loader rfl rfl rfl id
  | copyChannel i => exact h.of_loader rfl rfl rfl id
  | dropChannel i => exact h.of_loader rfl rfl rfl id
  | dropLoader => exact h.of_loader rfl rfl rfl id

/-- Every act leaves the load where it is or moves it on. -/
theorem move (h : r.IsOrderly) (a : Act) :
    (machine.step a r).2.loader.state = r.loader.state ∨
      r.loader.state.Move (machine.step a r).2.loader.state := by
  have heffect := effect_step a r
  generalize (machine.step a r).1 = reply, (machine.step a r).2.loader.state = state at heffect
  cases heffect with
  | none _ => exact .inl rfl
  | request hs =>
    rw [hs]
    exact .inr .request
  | win hs handle => exact .inr (LoadState.move_ready hs handle)
  | fail hs hi reason =>
    -- an injection that can end was started, and it is started after the word that it is pending
    have hrequested := h.requested (Nat.lt_of_le_of_lt (Nat.zero_le _) hi)
    exact .inr (LoadState.move_failed hs hrequested reason)

/-- The script is injected once at most. -/
theorem injections_le_one (h : r.IsOrderly) : r.loader.injections ≤ 1 := by
  have hcount := h.count
  have hle := r.loader.claimed.toNat_le
  omega

end IsOrderly

/-- Every run keeps the invariant. -/
theorem keeps_isOrderly : machine.Keeps IsOrderly := fun a _ h => h.step a

/-! ### Counting -/

/-- Whether no request is between its first and its last step. -/
def isIdle (r : Run) : Bool := !r.calls.any Call.isRunning

end Run

/-- Whether a step is a request that could start an injection. -/
def isRequest (x : Step) : Bool :=
  match x.act with
  | .call hasRuntime => hasRuntime && x.before.isHeld
  | _ => false

/-- Whether a step is a signal that settled the load. -/
def isWin (x : Step) : Bool := x.reply = .settled (some true)

namespace Run

/-- The requests that are kept are those that were made. -/
theorem wasRequested_step (a : Act) (r : Run) :
    (machine.step a r).2.wasRequested = (r.wasRequested || isRequest (machine.take a r)) := by
  rw [wasRequested, wasRequested]
  cases a with
  | call hasRuntime =>
    show (r.calls ++ [_]).any _ = (_ || (hasRuntime && r.isHeld))
    rw [List.any_append]
    cases hasRuntime <;> cases r.isHeld <;> rfl
  | advance i =>
    show (r.advance i).calls.any _ = (_ || false)
    rw [Bool.or_false]
    rcases advance_cases i r with heq | ⟨_, _, _, _, hi, hmove, heq⟩
    · rw [heq]
    · rw [heq]
      exact any_set_of_eq hi rfl
  | poll i =>
    show (r.poll i).2.calls.any _ = (_ || false)
    rw [Bool.or_false]
    rcases poll_run_cases i r with heq | ⟨c, hi, hdone, heq⟩
    · rw [heq]
    · rw [heq]
      refine any_set_of_eq hi ?_
      rw [Call.isFromRuntime, Call.isFromRuntime, hdone, Bool.or_true, Bool.or_true]
  | signal channel =>
    show (r.signalThrough channel).2.calls.any _ = (_ || false)
    rw [Bool.or_false, signalThrough_calls]
  | endInjection outcome =>
    show (r.endInjection outcome).calls.any _ = (_ || false)
    rw [Bool.or_false, endInjection_calls]
  | openChannel => exact (Bool.or_false _).symm
  | copyChannel _ => exact (Bool.or_false _).symm
  | dropChannel _ => exact (Bool.or_false _).symm
  | dropLoader => exact (Bool.or_false _).symm

variable {r : Run}

/-- An idle run knows no request between its first and its last step. -/
theorem isDone_of_isIdle (hidle : r.isIdle = true) {c : Call} (hc : c ∈ r.calls)
    (htaken : c.taken = false) : c.phase.isDone = true := by
  rw [isIdle, Bool.not_eq_true', List.any_eq_false] at hidle
  have hrunning := hidle c hc
  rw [Call.isRunning, htaken] at hrunning
  simpa using hrunning

namespace IsOrderly

/-- Where nobody has claimed the injection, every request that could start it still can. -/
theorem isDone_eq_false (h : r.IsOrderly) (hclaimed : r.loader.claimed = false) {c : Call}
    (hc : c ∈ r.calls) (hruntime : c.hasRuntime = true) : c.phase.isDone = false := by
  have hfits := h.fits c hc
  cases hphase : c.phase with
  | waiting =>
    rw [hphase, Phase.Fits, hclaimed] at hfits
    cases hfits
  | refused =>
    rw [hphase, Phase.Fits, hruntime] at hfits
    cases hfits
  | _ => rfl

/-- While no request is between its steps, the script is injected if it was requested, and
only then. -/
theorem injections_of_isIdle (h : r.IsOrderly) (hidle : r.isIdle = true) :
    r.loader.injections = if r.wasRequested then 1 else 0 := by
  -- nobody is on the way between claim and injection, so the two say the same
  have hnone : r.calls.countP Call.isInjecting = 0 := by
    rw [List.countP_eq_zero]
    intro c hc hinjecting
    rw [Call.isInjecting, Bool.and_eq_true, Bool.not_eq_true'] at hinjecting
    obtain ⟨htaken, hphase⟩ := hinjecting
    rw [Phase.isInjecting_of_isDone (isDone_of_isIdle hidle hc htaken)] at hphase
    cases hphase
  have hcount := h.count
  rw [hnone, Nat.zero_add] at hcount
  cases hclaimed : r.loader.claimed with
  | true => rw [hcount, hclaimed, h.claimed hclaimed, if_pos rfl, Bool.toNat_true]
  | false =>
    -- whoever could start the injection and is done would have claimed it
    have hno : r.wasRequested = false := by
      rw [wasRequested, List.any_eq_false]
      intro c hc hmade
      rw [Call.isFromRuntime, Bool.and_eq_true, Bool.or_eq_true, Bool.not_eq_true'] at hmade
      obtain ⟨hruntime, htaken | hdone⟩ := hmade
      · have hdone := isDone_of_isIdle hidle hc htaken
        rw [h.isDone_eq_false hclaimed hc hruntime] at hdone
        cases hdone
      · rw [h.isDone_eq_false hclaimed hc hruntime] at hdone
        cases hdone
    rw [hcount, hclaimed, hno]
    rfl

end IsOrderly

/-! ### Winning -/

/-- A settled load stays as it is. -/
theorem keeps_state {state : LoadState} (hs : state.isSettled = true) :
    machine.Keeps fun r => r.loader.state = state := by
  rintro a r rfl
  -- every effect on the load needs a load that is not settled
  have heffect := effect_step a r
  generalize (machine.step a r).1 = reply, (machine.step a r).2.loader.state = state at heffect ⊢
  cases heffect with
  | none _ => rfl
  | request h =>
    rw [h] at hs
    cases hs
  | win h _ =>
    rw [h] at hs
    cases hs
  | fail h _ _ =>
    rw [h] at hs
    cases hs

/-- A load that is settled stays settled. -/
theorem keeps_isSettled : machine.Keeps fun r => r.loader.state.isSettled = true := by
  intro a r hs
  have hsame : (machine.step a r).2.loader.state = r.loader.state := keeps_state hs a r rfl
  show (machine.step a r).2.loader.state.isSettled = true
  rw [hsame]
  exact hs

/-- A signal says that it settled the load just if it made the load ready. -/
theorem isWin_take_iff (a : Act) (r : Run) :
    isWin (machine.take a r) = true ↔
      r.loader.state.isSettled = false ∧
        ∃ handle, (machine.step a r).2.loader.state = .ready handle := by
  rw [isWin, decide_eq_true_eq]
  show (machine.step a r).1 = _ ↔ _
  have heffect := effect_step a r
  generalize (machine.step a r).1 = reply, (machine.step a r).2.loader.state = state at heffect ⊢
  cases heffect with
  | none hreply =>
    refine ⟨fun h => absurd h hreply, ?_⟩
    rintro ⟨hs, handle, hready⟩
    rw [hready] at hs
    cases hs
  | request h =>
    refine ⟨fun h => (by cases h), ?_⟩
    rintro ⟨-, handle, hready⟩
    cases hready
  | win hs handle => exact ⟨fun _ => ⟨hs, handle, rfl⟩, fun _ => rfl⟩
  | fail hs hi reason =>
    refine ⟨fun h => (by cases h), ?_⟩
    rintro ⟨-, handle, hready⟩
    cases hready

/-- A signal that reaches the loader settles the load unless it is settled. -/
theorem eq_not_isSettled_of_reply {a : Act} {r : Run} {settled : Bool}
    (h : (machine.step a r).1 = .settled (some settled)) :
    settled = !r.loader.state.isSettled := by
  cases a with
  | signal channel =>
    have hreply : (r.signalThrough channel).1 = some settled := Reply.settled.inj h
    rcases signalThrough_cases channel r with heq | ⟨hs, n, heq⟩ | ⟨hs, handle, n, heq⟩
    · rw [heq] at hreply
      cases hreply
    · rw [heq] at hreply
      rw [hs, ← Option.some.inj hreply]
      rfl
    · rw [heq] at hreply
      rw [hs, ← Option.some.inj hreply]
      rfl
  | _ => cases h

/-! ### Whole runs -/

/-- **The player API is loaded once.**  Whatever requests, signals and ends of injections
there are and however their steps follow each other: the script is injected once at most,
and whenever no request is between its steps it was injected just if it was requested; the
load only ever moves on, and once it is settled it stays as it is; and one signal at most
says that it settled the load, which is the one that made it ready, the first that reached
the loader before the load was settled. -/
theorem load_once (scriptUrl : String) (acts : List Act) :
    let r := machine.run acts (ofScript scriptUrl)
    let history := machine.steps acts (ofScript scriptUrl)
    r.loader.injections ≤ 1 ∧
    (r.isIdle = true → r.loader.injections = if history.any isRequest then 1 else 0) ∧
    (∀ x ∈ history, x.after.loader.state = x.before.loader.state ∨
      x.before.loader.state.Move x.after.loader.state) ∧
    (∀ x ∈ history, x.before.loader.state.isSettled = true →
      r.loader.state = x.before.loader.state) ∧
    (history.filter isWin).length ≤ 1 ∧
    (∀ x ∈ history, isWin x = true ↔
      x.before.loader.state.isSettled = false ∧
        ∃ handle, x.after.loader.state = .ready handle) ∧
    (∀ x ∈ history, ∀ settled, x.reply = .settled (some settled) →
      settled = !x.before.loader.state.isSettled) := by
  intro r history
  have hstart := isOrderly_ofScript scriptUrl
  have horderly : r.IsOrderly := keeps_isOrderly.run acts hstart
  have htake : ∀ x ∈ history, x = machine.take x.act x.before := fun x hx =>
    Machine.eq_take_of_mem hx
  refine ⟨horderly.injections_le_one, fun hidle => ?_, fun x hx => ?_, fun x hx hs => ?_, ?_,
    fun x hx => ?_, fun x hx settled hreply => ?_⟩
  · -- a run counts requests as they are made, so the two countings are compared act by act
    have hrequested : r.wasRequested = (false || history.any isRequest) :=
      Machine.apply_run_eq_or_any wasRequested_step acts (ofScript scriptUrl)
    rw [horderly.injections_of_isIdle hidle, hrequested, Bool.false_or]
  · rw [htake x hx]
    exact (keeps_isOrderly.before hstart hx).move x.act
  · exact (keeps_state hs).atEnd hx rfl
  · -- a second win would need a load that is not settled
    refine Machine.length_filter_steps_le_one keeps_isSettled (fun a s hwin => ?_)
      (fun a s hs => ?_) acts (ofScript scriptUrl)
    · obtain ⟨-, handle, hready⟩ := (isWin_take_iff a s).1 hwin
      rw [hready]
      rfl
    · rw [Bool.eq_false_iff]
      intro hwin
      rw [((isWin_take_iff a s).1 hwin).1] at hs
      cases hs
  · rw [htake x hx]
    exact isWin_take_iff x.act x.before
  · rw [htake x hx] at hreply
    exact eq_not_isSettled_of_reply hreply

/-- Two requests race for the injection, the script is ready while the winner is between
its claim and its word that the load is pending, and the injection fails in the end. -/
theorem load_once_race :
    let acts : List Act := [.call true, .call true, .advance 0, .advance 1, .advance 1,
      .advance 0, .signal none, .advance 1, .advance 1, .endInjection (.error "late"), .signal none]
    let r := machine.run acts (ofScript "https://www.youtube.com/iframe_api")
    let history := machine.steps acts (ofScript "https://www.youtube.com/iframe_api")
    r.isIdle = true ∧ r.loader.injections = 1 ∧ (history.filter isWin).length ≤ 1 ∧
      r.loader.state = .ready ⟨"https://www.youtube.com/iframe_api", 0⟩ := by
  intro acts r history
  have hidle : r.isIdle = true := by decide
  have hrequested : history.any isRequest = true := by decide
  obtain ⟨-, hinjections, -, -, hwins, -⟩ := load_once "https://www.youtube.com/iframe_api" acts
  refine ⟨hidle, ?_, hwins, by decide⟩
  rw [hinjections hidle, if_pos hrequested]

end Run

end VideoPosters.Player
