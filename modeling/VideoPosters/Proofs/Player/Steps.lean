import VideoPosters.Player.Run
import VideoPosters.Proofs.History

/-!
# What happens in a run of the player loader

The steps of requests, the looks after them, the signals of the script, the ends of
injections and the coming and going of owners may follow each other in any order.  Each
of them is an act of one machine; this file says what each act does, so that no later
proof has to look into it again.

## Main definitions

* `Act`, `Reply`, `Run.machine` — what can happen, and the machine it happens in.
* `Phase.Move` — the steps of a request.
* `Run.Effect` — what an act does to the load.

## Main results

* `Phase.move_step`, `Run.advance_cases` — what a step of a request does.
* `Run.poll_cases` — what looking after a request does.
* `Run.signalThrough_cases`, `Run.endInjection_cases` — what settles the load.
* `Run.effect_step` — what each act does to the load.
-/

namespace VideoPosters.Player

/-- What can happen in a run. -/
inductive Act where
  /-- A request begins. -/
  | call (hasRuntime : Bool)
  /-- A request makes its next step. -/
  | advance (i : Nat)
  /-- Somebody looks what a request has come to. -/
  | poll (i : Nat)
  /-- The script signals through a channel, or through a new one. -/
  | signal (channel : Option Nat)
  /-- An injection ends, with a reason if it failed. -/
  | endInjection (outcome : Except String Unit)
  | openChannel
  | copyChannel (i : Nat)
  | dropChannel (i : Nat)
  | dropLoader

/-- What comes of an act. -/
inductive Reply where
  | nothing
  /-- What a request has come to; none if there is no such request. -/
  | answer (answer : Option Answer)
  /-- Whether a signal settled the load; none if there was nothing to signal through. -/
  | settled (settled : Option Bool)
  deriving DecidableEq

namespace Run

/-- Does an act. -/
def perform : Act → Run → Reply × Run
  | .call hasRuntime, r => (.nothing, r.call hasRuntime)
  | .advance i, r => (.nothing, r.advance i)
  | .poll i, r => (.answer (r.poll i).1, (r.poll i).2)
  | .signal channel, r => (.settled (r.signalThrough channel).1, (r.signalThrough channel).2)
  | .endInjection outcome, r => (.nothing, r.endInjection outcome)
  | .openChannel, r => (.nothing, r.openChannel)
  | .copyChannel i, r => (.nothing, r.copyChannel i)
  | .dropChannel i, r => (.nothing, r.dropChannel i)
  | .dropLoader, r => (.nothing, r.dropLoader)

/-- The machine of runs. -/
def machine : Machine Run Act Reply := ⟨perform⟩

theorem reaches_perform (a : Act) (r : Run) : machine.Reaches r (perform a r).2 :=
  Machine.reaches_step a r

end Run

/-- A step of a run. -/
abbrev Step := Machine.Step Run Act Reply

/-! ### Requests -/

/-- The steps of a request: from which phase and loader it comes to which. -/
inductive Phase.Move (hasRuntime : Bool) : Phase → Loader → Phase → Loader → Prop where
  | join {l} (h : l.claimed = true) : Move hasRuntime .looking l .waiting l
  | attempt {l} (h : l.claimed = false) (hr : hasRuntime = true) :
      Move hasRuntime .looking l .claiming l
  | refuse {l} (h : l.claimed = false) (hr : hasRuntime = false) :
      Move hasRuntime .looking l .refused l
  | lose {l} (h : l.claimed = true) : Move hasRuntime .claiming l .waiting l
  | claim {l} (h : l.claimed = false) :
      Move hasRuntime .claiming l .announcing { l with claimed := true }
  | announce {l} (h : l.state = .notRequested) :
      Move hasRuntime .announcing l .starting { l with state := .pending }
  | pass {l} (h : l.state ≠ .notRequested) : Move hasRuntime .announcing l .starting l
  | start {l} :
      Move hasRuntime .starting l .waiting { l with injections := l.injections + 1 }
  | rest {phase l} (h : phase.isDone = true) : Move hasRuntime phase l phase l

/-- Every step of a request is one of these. -/
theorem Phase.move_step (hasRuntime : Bool) (phase : Phase) (l : Loader) :
    Phase.Move hasRuntime phase l (phase.step hasRuntime l).1 (phase.step hasRuntime l).2 := by
  cases phase with
  | looking =>
    rw [Phase.step]
    split
    · next h => exact .join h
    · next h =>
      split
      · next hr => exact .attempt (Bool.eq_false_iff.2 h) hr
      · next hr => exact .refuse (Bool.eq_false_iff.2 h) (Bool.eq_false_iff.2 hr)
  | claiming =>
    rw [Phase.step]
    split
    · next h => exact .lose h
    · next h => exact .claim (Bool.eq_false_iff.2 h)
  | announcing =>
    rw [Phase.step]
    split
    · next h => exact .announce h
    · next h => exact .pass h
  | starting => exact .start
  | waiting => exact .rest rfl
  | refused => exact .rest rfl

namespace Run

variable {r : Run}

/-- A step of a request does nothing, or moves one request that has not been answered. -/
theorem advance_cases (i : Nat) (r : Run) :
    r.advance i = r ∨
      ∃ hasRuntime phase phase' l, r.calls[i]? = some ⟨hasRuntime, phase, false⟩ ∧
        Phase.Move hasRuntime phase r.loader phase' l ∧
        r.advance i =
          { r with loader := l, calls := r.calls.set i ⟨hasRuntime, phase', false⟩ } := by
  rw [advance]
  split
  · next hasRuntime phase hi =>
    exact .inr ⟨hasRuntime, phase, _, _, hi, phase.move_step hasRuntime r.loader, rfl⟩
  · exact .inl rfl

/-- Looking after a request changes nothing unless its outcome is taken, which can happen
once and only when the request has made all its steps. -/
theorem poll_cases (i : Nat) (r : Run) :
    r.poll i = (none, r) ∨ r.poll i = (some .taken, r) ∨ r.poll i = (some .pending, r) ∨
      ∃ c, r.calls[i]? = some c ∧ c.taken = false ∧ c.phase.isDone = true ∧
        r.answerIn c.phase ≠ .pending ∧
        r.poll i = (some (r.answerIn c.phase),
          { r with calls := r.calls.set i { c with taken := true } }) := by
  rw [poll]
  split
  · exact .inl rfl
  · next c hi =>
    split
    · exact .inr (.inl rfl)
    · next ht =>
      split
      · exact .inr (.inr (.inl rfl))
      · next hpending =>
        refine .inr (.inr (.inr ⟨c, hi, Bool.eq_false_iff.2 ht, ?_, hpending, rfl⟩))
        -- whoever is not done yet is told to wait
        cases hphase : c.phase with
        | waiting => rfl
        | refused => rfl
        | _ =>
          rw [hphase] at hpending
          exact absurd rfl hpending

/-- Looking after a request changes nothing, or it marks a request as answered that has made
all its steps. -/
theorem poll_run_cases (i : Nat) (r : Run) :
    (r.poll i).2 = r ∨ ∃ c, r.calls[i]? = some c ∧ c.phase.isDone = true ∧
      (r.poll i).2 = { r with calls := r.calls.set i { c with taken := true } } := by
  rcases poll_cases i r with heq | heq | heq | ⟨c, hi, -, hdone, -, heq⟩
  · exact .inl (by rw [heq])
  · exact .inl (by rw [heq])
  · exact .inl (by rw [heq])
  · exact .inr ⟨c, hi, hdone, by rw [heq]⟩

/-! ### Settling -/

/-- A signal finds nothing to signal through, or it reaches the loader. -/
theorem signalThrough_eq (channel : Option Nat) (r : Run) :
    r.signalThrough channel = (none, r) ∨
      r.signalThrough channel = (some r.signal.1, r.signal.2) := by
  cases channel with
  | none =>
    by_cases h : r.isHeld = true
    · exact .inr (if_pos h)
    · exact .inl (if_neg h)
  | some i =>
    by_cases h : r.channels.getD i false = true
    · exact .inr (if_pos h)
    · exact .inl (if_neg h)

/-- A signal finds nothing to signal through, or a settled load, or it settles the load. -/
theorem signalThrough_cases (channel : Option Nat) (r : Run) :
    r.signalThrough channel = (none, r) ∨
    (r.loader.state.isSettled = true ∧ ∃ n, r.signalThrough channel =
      (some false, { r with loader := { r.loader with signals := n } })) ∨
    (r.loader.state.isSettled = false ∧ ∃ handle n, r.signalThrough channel = (some true,
      { r with loader := { r.loader with state := .ready handle, signals := n } })) := by
  rcases signalThrough_eq channel r with h | h
  · exact .inl h
  · right
    rw [h, signal, Loader.signal, Loader.settle]
    cases hs : r.loader.state.isSettled with
    | true => exact .inl ⟨rfl, _, rfl⟩
    | false => exact .inr ⟨rfl, _, _, rfl⟩

/-- An injection that ends was started and had not ended; it settles the load if it failed
and the load was not settled. -/
theorem endInjection_cases (outcome : Except String Unit) (r : Run) :
    r.endInjection outcome = r ∨
    (r.ended < r.loader.injections ∧
      r.endInjection outcome = { r with ended := r.ended + 1 }) ∨
    (r.ended < r.loader.injections ∧ r.loader.state.isSettled = false ∧
      ∃ reason, outcome = .error reason ∧ r.endInjection outcome =
        { r with ended := r.ended + 1, loader := { r.loader with state := .failed reason } }) := by
  rw [endInjection.eq_def]
  split
  · next hlt =>
    right
    cases outcome with
    | ok _ => exact .inl ⟨hlt, rfl⟩
    | error reason =>
      -- a settled load takes no failure any more
      simp only [Loader.fail, Loader.settle]
      cases hs : r.loader.state.isSettled with
      | true => exact .inl ⟨hlt, rfl⟩
      | false => exact .inr ⟨hlt, rfl, reason, rfl, rfl⟩
  · exact .inl rfl

theorem signalThrough_calls (channel : Option Nat) (r : Run) :
    (r.signalThrough channel).2.calls = r.calls := by
  rcases signalThrough_cases channel r with heq | ⟨-, _, heq⟩ | ⟨-, _, _, heq⟩ <;> rw [heq]

theorem endInjection_calls (outcome : Except String Unit) (r : Run) :
    (r.endInjection outcome).calls = r.calls := by
  rcases endInjection_cases outcome r with heq | ⟨-, heq⟩ | ⟨-, -, _, -, heq⟩ <;> rw [heq]

/-! ### What an act does to the load -/

/-- What an act does to the load: from which state it comes to which, and with what reply. -/
inductive Effect (r : Run) : Act → Reply → LoadState → Prop where
  | none {a reply} (h : reply ≠ .settled (some true)) : Effect r a reply r.loader.state
  | request {i} (h : r.loader.state = .notRequested) : Effect r (.advance i) .nothing .pending
  | win {channel} (h : r.loader.state.isSettled = false) (handle : Handle) :
      Effect r (.signal channel) (.settled (some true)) (.ready handle)
  | fail (h : r.loader.state.isSettled = false) (hi : r.ended < r.loader.injections)
      (reason : String) : Effect r (.endInjection (.error reason)) .nothing (.failed reason)

theorem effect_advance (i : Nat) (r : Run) :
    r.Effect (.advance i) .nothing (r.advance i).loader.state := by
  rcases advance_cases i r with heq | ⟨_, _, _, _, _, hmove, heq⟩
  · rw [heq]
    exact .none Reply.noConfusion
  · rw [heq]
    cases hmove with
    | announce h => exact .request h
    | _ => exact .none Reply.noConfusion

theorem effect_poll (i : Nat) (r : Run) :
    r.Effect (.poll i) (.answer (r.poll i).1) (r.poll i).2.loader.state := by
  -- looking after a request never touches the load
  have hloader : (r.poll i).2.loader = r.loader := by
    rcases poll_run_cases i r with heq | ⟨_, _, _, heq⟩ <;> rw [heq]
  rw [hloader]
  exact .none Reply.noConfusion

theorem effect_signal (channel : Option Nat) (r : Run) :
    r.Effect (.signal channel) (.settled (r.signalThrough channel).1)
      (r.signalThrough channel).2.loader.state := by
  rcases signalThrough_cases channel r with heq | ⟨-, n, heq⟩ | ⟨hs, handle, n, heq⟩
  · have hreply : Reply.settled none ≠ .settled (some true) := by decide
    rw [heq]
    exact .none hreply
  · have hreply : Reply.settled (some false) ≠ .settled (some true) := by decide
    rw [heq]
    exact .none hreply
  · rw [heq]
    exact .win hs handle

theorem effect_endInjection (outcome : Except String Unit) (r : Run) :
    r.Effect (.endInjection outcome) .nothing (r.endInjection outcome).loader.state := by
  rcases endInjection_cases outcome r with heq | ⟨-, heq⟩ | ⟨hi, hs, reason, rfl, heq⟩
  · rw [heq]
    exact .none Reply.noConfusion
  · rw [heq]
    exact .none Reply.noConfusion
  · rw [heq]
    exact .fail hs hi reason

/-- Every act does one of these to the load. -/
theorem effect_step (a : Act) (r : Run) :
    r.Effect a (machine.step a r).1 (machine.step a r).2.loader.state := by
  cases a with
  | advance i => exact effect_advance i r
  | poll i => exact effect_poll i r
  | signal channel => exact effect_signal channel r
  | endInjection outcome => exact effect_endInjection outcome r
  | _ => exact .none Reply.noConfusion

end Run

end VideoPosters.Player
