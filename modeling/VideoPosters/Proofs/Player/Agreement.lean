import VideoPosters.Proofs.Player.Once

/-!
# All requests for the player API come to the same

A request that has made its steps and was not refused waits for the load.  What it comes
to is read off the shared state when somebody looks after it, however late that is.  Two
things make the answer final: the load is settled, or nothing is left that could settle it.
Neither is ever undone, so that no two requests come to different answers.

## Main definitions

* `Run.Waits` — a request waits for the load.
* `Run.IsAbandoned` — nothing is left that could settle the load.
* `Run.verdict?` — the final answer to all that wait, once there is one.
* `Delivers` — a step in which a request that waited is answered.

## Main results

* `Run.IsAbandoned.step` — what is abandoned stays abandoned, and its load does not move.
* `Run.keeps_verdict` — no act changes a final answer.
* `Run.requests_agree` — **all requests that wait come to the one outcome of the load.**
-/

namespace VideoPosters.Player

namespace Run

variable {r : Run}

/-! ### What nothing is left of -/

/-- Nothing is left that could settle the load. -/
structure IsAbandoned (r : Run) : Prop where
  isHeld : r.isHeld = false
  calls : r.calls.any Call.isRunning = false
  channels : r.channels.any id = false
  injections : ¬ r.ended < r.loader.injections

theorem isOwned_eq_false_iff : r.isOwned = false ↔ r.IsAbandoned := by
  rw [isOwned, Bool.or_eq_false_iff, Bool.or_eq_false_iff, Bool.or_eq_false_iff,
    decide_eq_false_iff_not]
  constructor
  · rintro ⟨⟨⟨hheld, hcalls⟩, hchannels⟩, hinjections⟩
    exact ⟨hheld, hcalls, hchannels, hinjections⟩
  · intro h
    exact ⟨⟨⟨h.isHeld, h.calls⟩, h.channels⟩, h.injections⟩

namespace IsAbandoned

/-- No channel is left. -/
theorem getD_channels (h : r.IsAbandoned) (i : Nat) : r.channels.getD i false = false := by
  rw [List.getD_eq_getElem?_getD]
  cases hi : r.channels[i]? with
  | none => rfl
  | some isThere =>
    have hnone := List.any_eq_false.1 h.channels isThere (List.mem_of_getElem? hi)
    exact Bool.eq_false_iff.2 hnone

/-- Nothing is left to signal through. -/
theorem signalThrough (h : r.IsAbandoned) (channel : Option Nat) :
    r.signalThrough channel = (none, r) := by
  cases channel with
  | none =>
    rw [Run.signalThrough]
    exact if_neg (Bool.eq_false_iff.1 h.isHeld)
  | some i =>
    rw [Run.signalThrough]
    exact if_neg (Bool.eq_false_iff.1 (h.getD_channels i))

/-- No injection is left that could end. -/
theorem endInjection (h : r.IsAbandoned) (outcome : Except String Unit) :
    r.endInjection outcome = r := by
  rw [Run.endInjection.eq_def, if_neg h.injections]

/-- No request is left that could make a step. -/
theorem advance (h : r.IsAbandoned) (i : Nat) :
    (r.advance i).IsAbandoned ∧ (r.advance i).loader = r.loader := by
  rcases advance_cases i r with heq | ⟨hasRuntime, phase, phase', l, hi, hmove, heq⟩
  · rw [heq]
    exact ⟨h, rfl⟩
  · have hrunning := List.any_eq_false.1 h.calls _ (List.mem_of_getElem? hi)
    rw [heq]
    -- the only step that a request can still make is none at all
    cases hmove with
    | rest hdone =>
      refine ⟨⟨h.isHeld, ?_, h.channels, h.injections⟩, rfl⟩
      exact (any_set_of_eq hi rfl).trans h.calls
    | _ => exact absurd rfl hrunning

theorem poll (h : r.IsAbandoned) (i : Nat) :
    (r.poll i).2.IsAbandoned ∧ (r.poll i).2.loader = r.loader := by
  rcases poll_run_cases i r with heq | ⟨c, hi, hdone, heq⟩
  · rw [heq]
    exact ⟨h, rfl⟩
  · rw [heq]
    refine ⟨⟨h.isHeld, ?_, h.channels, h.injections⟩, rfl⟩
    refine (any_set_of_eq hi ?_).trans h.calls
    rw [Call.isRunning, Call.isRunning, hdone, Bool.not_true, Bool.and_false, Bool.and_false]

/-- What is abandoned stays abandoned, and its load does not move. -/
theorem step (h : r.IsAbandoned) (a : Act) :
    (machine.step a r).2.IsAbandoned ∧ (machine.step a r).2.loader = r.loader := by
  cases a with
  | call hasRuntime =>
    refine ⟨⟨h.isHeld, ?_, h.channels, h.injections⟩, rfl⟩
    show (r.calls ++ [Call.mk hasRuntime .looking !r.isHeld]).any Call.isRunning = false
    rw [List.any_append, h.calls, h.isHeld]
    rfl
  | advance i => exact h.advance i
  | poll i => exact h.poll i
  | signal channel =>
    show (r.signalThrough channel).2.IsAbandoned ∧ (r.signalThrough channel).2.loader = _
    rw [h.signalThrough channel]
    exact ⟨h, rfl⟩
  | endInjection outcome =>
    show (r.endInjection outcome).IsAbandoned ∧ (r.endInjection outcome).loader = _
    rw [h.endInjection outcome]
    exact ⟨h, rfl⟩
  | openChannel =>
    refine ⟨⟨h.isHeld, h.calls, ?_, h.injections⟩, rfl⟩
    show (r.channels ++ [r.isHeld]).any id = false
    rw [List.any_append, h.channels, h.isHeld]
    rfl
  | copyChannel i =>
    refine ⟨⟨h.isHeld, h.calls, ?_, h.injections⟩, rfl⟩
    show (r.channels ++ [r.channels.getD i false]).any id = false
    rw [List.any_append, h.channels, h.getD_channels i]
    rfl
  | dropChannel i =>
    refine ⟨⟨h.isHeld, h.calls, ?_, h.injections⟩, rfl⟩
    show (r.channels.set i false).any id = false
    rw [List.any_eq_false]
    intro isThere hmem
    rcases List.mem_or_eq_of_mem_set hmem with hmem | rfl
    · exact List.any_eq_false.1 h.channels isThere hmem
    · exact Bool.false_ne_true
  | dropLoader => exact ⟨⟨rfl, h.calls, h.channels, h.injections⟩, rfl⟩

end IsAbandoned

/-! ### The final answer -/

/-- The final answer to all requests that wait, once there is one. -/
def verdict? (r : Run) : Option Answer :=
  if r.loader.state.isSettled then r.loader.state.outcome?.map Answer.ofOutcome
  else if r.isOwned then none
  else some (.failed .abandoned)

/-- A request waits for the load: it has made its steps, was not refused, and has not been
answered. -/
def Waits (r : Run) (i : Nat) : Prop :=
  ∃ c, r.calls[i]? = some c ∧ c.phase = .waiting ∧ c.taken = false

theorem verdict?_of_outcome? {outcome : Except String Handle}
    (h : r.loader.state.outcome? = some outcome) :
    r.verdict? = some (Answer.ofOutcome outcome) := by
  have hsettled : r.loader.state.isSettled = true := by
    rw [← LoadState.isSome_outcome?, h]
    rfl
  rw [verdict?, if_pos hsettled, h]
  rfl

theorem verdict?_of_isOwned (hs : r.loader.state.isSettled = false) (ho : r.isOwned = true) :
    r.verdict? = none := by
  rw [verdict?, if_neg (Bool.eq_false_iff.1 hs), if_pos ho]

/-- Whoever waits is told the final answer, or that there is none. -/
theorem answerIn_waiting (r : Run) : r.answerIn .waiting = r.verdict?.getD .pending := by
  rw [answerIn, verdict?]
  split
  · next hs =>
    rw [← LoadState.isSome_outcome?] at hs
    obtain ⟨outcome, houtcome⟩ := Option.isSome_iff_exists.1 hs
    rw [houtcome]
    rfl
  · split <;> rfl

/-- A final answer says what the load came to, or that it was abandoned. -/
theorem verdict?_cases {answer : Answer} (h : r.verdict? = some answer) :
    (∃ outcome, r.loader.state.outcome? = some outcome ∧ answer = Answer.ofOutcome outcome) ∨
      (r.loader.state.isSettled = false ∧ r.IsAbandoned ∧ answer = .failed .abandoned) := by
  rw [verdict?] at h
  split at h
  · obtain ⟨outcome, houtcome, hanswer⟩ := Option.map_eq_some_iff.1 h
    exact .inl ⟨outcome, houtcome, hanswer.symm⟩
  · next hs =>
    split at h
    · cases h
    · next ho =>
      have hgone := isOwned_eq_false_iff.1 (Bool.eq_false_iff.2 ho)
      exact .inr ⟨Bool.eq_false_iff.2 hs, hgone, (Option.some.inj h).symm⟩

/-- No act changes a final answer. -/
theorem keeps_verdict (answer : Answer) : machine.Keeps fun r => r.verdict? = some answer := by
  intro a r h
  rcases verdict?_cases h with ⟨outcome, houtcome, rfl⟩ | ⟨hs, hgone, rfl⟩
  · -- a settled load stays as it is
    have hsettled : r.loader.state.isSettled = true := by
      rw [← LoadState.isSome_outcome?, houtcome]
      rfl
    have hsame : (machine.step a r).2.loader.state = r.loader.state := keeps_state hsettled a r rfl
    exact verdict?_of_outcome? (hsame ▸ houtcome)
  · -- an abandoned load can no longer be settled
    obtain ⟨hgone', hloader⟩ := hgone.step a
    have hs' : (machine.step a r).2.loader.state.isSettled = false := hloader ▸ hs
    have ho := isOwned_eq_false_iff.2 hgone'
    show (machine.step a r).2.verdict? = _
    rw [verdict?, if_neg (Bool.eq_false_iff.1 hs'), if_neg (Bool.eq_false_iff.1 ho)]

/-! ### Looking after a request -/

/-- Whoever looks after a request that waits is told the final answer, or that there is
none. -/
theorem Waits.poll {i : Nat} (h : r.Waits i) :
    (r.poll i).1 = some (r.verdict?.getD .pending) := by
  obtain ⟨c, hi, hphase, htaken⟩ := h
  rw [Run.poll, hi]
  simp only [htaken, hphase, Bool.false_eq_true, if_false, answerIn_waiting]
  split
  · next hanswer => rw [hanswer]
  · rfl

/-- As long as there is no final answer, looking after a request that waits changes
nothing. -/
theorem Waits.poll_of_verdict? {i : Nat} (h : r.Waits i) (hnone : r.verdict? = none) :
    r.poll i = (some .pending, r) := by
  obtain ⟨c, hi, hphase, htaken⟩ := h
  rw [Run.poll, hi]
  simp only [htaken, hphase, Bool.false_eq_true, if_false, answerIn_waiting, hnone,
    Option.getD_none]

/-- No request is told that the load has come to nothing. -/
theorem answerIn_ne_neverSettled (r : Run) (phase : Phase) :
    r.answerIn phase ≠ .failed .neverSettled := by
  intro h
  cases phase with
  | waiting =>
    rw [answerIn_waiting] at h
    cases hverdict : r.verdict? with
    | none =>
      rw [hverdict] at h
      cases h
    -- a final answer is what the load came to, or that it was abandoned: neither is this one
    | some answer =>
      rw [hverdict, Option.getD_some] at h
      rcases verdict?_cases hverdict with ⟨outcome, -, rfl⟩ | ⟨-, -, rfl⟩
      · cases outcome <;> cases h
      · cases h
  | _ => cases h

end Run

/-! ### Whole runs -/

/-- A step in which a request that waited is answered. -/
def Delivers (x : Step) (answer : Answer) : Prop :=
  ∃ i, x.act = .poll i ∧ x.before.Waits i ∧ x.reply = .answer (some answer) ∧ answer ≠ .pending

namespace Run

/-- A request that is answered is told the final answer. -/
theorem verdict?_of_delivers {a : Act} {r : Run} {answer : Answer}
    (h : Delivers (machine.take a r) answer) : r.verdict? = some answer := by
  obtain ⟨i, rfl, hwaits, hreply, hpending⟩ := h
  have hwaits : r.Waits i := hwaits
  have hpoll : (r.poll i).1 = some answer := Reply.answer.inj hreply
  rw [hwaits.poll] at hpoll
  cases hverdict : r.verdict? with
  | none =>
    rw [hverdict] at hpoll
    exact absurd (Option.some.inj hpoll).symm hpending
  | some verdict =>
    rw [hverdict] at hpoll
    exact hpoll

/-- What a request was told is the final answer still at the end of the run. -/
theorem verdict?_run_of_delivers {acts : List Act} {x : Step} (hx : x ∈ machine.steps acts r)
    {answer : Answer} (h : Delivers x answer) : (machine.run acts r).verdict? = some answer := by
  rw [Machine.eq_take_of_mem hx] at h
  exact (keeps_verdict answer).atEnd hx (verdict?_of_delivers h)

/-- No act replies that the load has come to nothing. -/
theorem reply_ne_neverSettled (a : Act) (r : Run) :
    (machine.step a r).1 ≠ .answer (some (.failed .neverSettled)) := by
  cases a with
  | poll i =>
    intro h
    have hanswer : (r.poll i).1 = some (.failed .neverSettled) := Reply.answer.inj h
    rcases poll_cases i r with heq | heq | heq | ⟨c, -, -, -, -, heq⟩
    · rw [heq] at hanswer
      cases hanswer
    · rw [heq] at hanswer
      cases hanswer
    · rw [heq] at hanswer
      cases hanswer
    · rw [heq] at hanswer
      exact answerIn_ne_neverSettled r c.phase (Option.some.inj hanswer)
  | _ => exact Reply.noConfusion

/-- A load that fails for a reason does so when an injection ends for that reason. -/
theorem act_of_failed {a : Act} {r : Run} {reason : String}
    (hbefore : r.loader.state ≠ .failed reason)
    (hafter : (machine.step a r).2.loader.state = .failed reason) :
    a = .endInjection (.error reason) ∧ r.loader.state.isSettled = false := by
  have heffect := effect_step a r
  generalize (machine.step a r).1 = reply, (machine.step a r).2.loader.state = state
    at heffect hafter
  cases heffect with
  | none _ => exact absurd hafter hbefore
  | request _ => cases hafter
  | win _ handle => cases hafter
  | fail hs _ _ =>
    cases hafter
    exact ⟨rfl, hs⟩

/-- **All requests for the player API come to the same.**  Whatever happens, and in
whatever order: a request that waits is told to wait for as long as the load is not settled
and something is left that could settle it; once the load is settled, all that wait are
told what it came to, whether they were made before or after and however late somebody
looks after them; the load fails with the reason for which an injection ended; no two
requests that waited are answered differently; and none is told that the load has come to
nothing. -/
theorem requests_agree (scriptUrl : String) (acts : List Act) :
    let r := machine.run acts (ofScript scriptUrl)
    let history := machine.steps acts (ofScript scriptUrl)
    (∀ i, r.Waits i → r.loader.state.isSettled = false → r.isOwned = true →
      r.poll i = (some .pending, r)) ∧
    (∀ outcome, r.loader.state.outcome? = some outcome → ∀ later i,
      (machine.run later r).Waits i →
        ((machine.run later r).poll i).1 = some (Answer.ofOutcome outcome)) ∧
    (∀ reason, r.loader.state = .failed reason → ∃ x ∈ history,
      x.act = .endInjection (.error reason) ∧ x.before.loader.state.isSettled = false ∧
        x.after.loader.state = .failed reason) ∧
    (∀ x ∈ history, ∀ y ∈ history, ∀ answer answer',
      Delivers x answer → Delivers y answer' → answer = answer') ∧
    (∀ x ∈ history, x.reply ≠ .answer (some (.failed .neverSettled))) := by
  intro r history
  have htake : ∀ x ∈ history, x = machine.take x.act x.before := fun x hx =>
    Machine.eq_take_of_mem hx
  refine ⟨fun i hwaits hs ho => ?_, fun outcome houtcome later i hwaits => ?_,
    fun reason hfailed => ?_, fun x hx y hy answer answer' hdx hdy => ?_, fun x hx => ?_⟩
  · exact hwaits.poll_of_verdict? (verdict?_of_isOwned hs ho)
  · have hverdict := (keeps_verdict _).run later (verdict?_of_outcome? houtcome)
    rw [hwaits.poll, hverdict, Option.getD_some]
  · -- the load starts unsettled, so there is an act at which it fails for this reason
    obtain ⟨x, hx, hbefore, hafter⟩ :=
      Machine.exists_step (P := fun r : Run => r.loader.state = .failed reason)
        LoadState.noConfusion hfailed
    have hx' := htake x hx
    rw [hx'] at hafter
    obtain ⟨hact, hs⟩ := act_of_failed hbefore hafter
    exact ⟨x, hx, hact, hs, by rw [hx']; exact hafter⟩
  · -- both were told the one final answer that there is at the end
    have hanswers := (verdict?_run_of_delivers hx hdx).symm.trans (verdict?_run_of_delivers hy hdy)
    exact Option.some.inj hanswers
  · rw [htake x hx]
    exact reply_ne_neverSettled x.act x.before

/-- Two requests wait, the injection fails, and the loader is let go of before either of them
is answered. -/
theorem requests_agree_after_drop :
    let acts : List Act := [.call true, .call true, .advance 0, .advance 0, .advance 1,
      .advance 0, .poll 1, .advance 0, .endInjection (.error "HTTP 500"), .dropLoader]
    let r := machine.run acts (ofScript "https://www.youtube.com/iframe_api")
    r.Waits 0 ∧ r.Waits 1 ∧ r.isOwned = false ∧
      (r.poll 0).1 = some (.failed (.injection "HTTP 500")) ∧
      ((machine.run [.poll 0] r).poll 1).1 = some (.failed (.injection "HTTP 500")) := by
  intro acts r
  have hwaits : r.Waits 0 := ⟨_, rfl, rfl, rfl⟩
  have hwaits' : (machine.run [.poll 0] r).Waits 1 := ⟨_, rfl, rfl, rfl⟩
  obtain ⟨-, hsettled, -, -, -⟩ := requests_agree "https://www.youtube.com/iframe_api" acts
  have hanswers := hsettled (.error "HTTP 500") rfl
  exact ⟨hwaits, ⟨_, rfl, rfl, rfl⟩, by decide, hanswers [] 0 hwaits, hanswers [.poll 0] 1 hwaits'⟩

end Run

end VideoPosters.Player
