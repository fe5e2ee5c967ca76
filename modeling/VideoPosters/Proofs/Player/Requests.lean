import VideoPosters.Proofs.Player.Agreement

/-!
# What becomes of a request for the player API

A request looks once whether the injection is claimed.  What it finds decides what becomes
of it: without a runtime it is refused while nobody has claimed the injection, and once
somebody has, it waits like all others.

## Main definitions

* `Run.CallEffect` — what an act does to a request.
* `Run.Refused`, `Run.IsSpared` — a request was refused, and it cannot be any more.
* `Run.Joins` — a request comes after the claim.

## Main results

* `Run.callEffect_step`, `Run.claimed_step` — what each act does to a request, and to the
  claim.
* `Run.keeps_isSpared` — whoever cannot be refused any more never is.
* `Run.exists_look_of_refused` — when a request is refused.
* `Run.Joins.waits_or_delivers` — whoever comes after the claim waits for the answer.
-/

namespace VideoPosters.Player

/-! ### One request -/

namespace Run

variable {r : Run} {i : Nat} {c : Call}

/-- What an act does to a request: it does nothing, moves it on, or takes its outcome. -/
inductive CallEffect (r : Run) (i : Nat) (c : Call) : Act → Call → Prop where
  | none {a} : CallEffect r i c a c
  | move {phase' l} (htaken : c.taken = false)
      (hmove : Phase.Move c.hasRuntime c.phase r.loader phase' l) :
      CallEffect r i c (.advance i) ⟨c.hasRuntime, phase', false⟩
  | take (htaken : c.taken = false) (hdone : c.phase.isDone = true)
      (hanswer : (r.poll i).1 = some (r.answerIn c.phase)) (hreal : r.answerIn c.phase ≠ .pending) :
      CallEffect r i c (.poll i) { c with taken := true }

/-- Every act does one of these to a request. -/
theorem callEffect_step (hi : r.calls[i]? = some c) (a : Act) :
    ∃ c', (machine.step a r).2.calls[i]? = some c' ∧ CallEffect r i c a c' := by
  have hlt : i < r.calls.length := (List.getElem?_eq_some_iff.1 hi).1
  cases a with
  | call hasRuntime => exact ⟨c, (List.getElem?_append_left hlt).trans hi, .none⟩
  | advance j =>
    show ∃ c', (r.advance j).calls[i]? = _ ∧ _
    rcases advance_cases j r with heq | ⟨hasRuntime, phase, phase', l, hj, hmove, heq⟩
    · rw [heq]
      exact ⟨c, hi, .none⟩
    · rw [heq]
      -- another request that moves leaves this one where it is
      by_cases hij : j = i
      · subst hij
        obtain rfl := Option.some.inj (hi.symm.trans hj)
        exact ⟨_, List.getElem?_set_self hlt, .move rfl hmove⟩
      · exact ⟨c, (List.getElem?_set_ne hij).trans hi, .none⟩
  | poll j =>
    show ∃ c', (r.poll j).2.calls[i]? = _ ∧ _
    rcases poll_cases j r with heq | heq | heq | ⟨d, hj, htaken, hdone, hreal, heq⟩
    · rw [heq]
      exact ⟨c, hi, .none⟩
    · rw [heq]
      exact ⟨c, hi, .none⟩
    · rw [heq]
      exact ⟨c, hi, .none⟩
    · -- only a poll that takes the outcome changes a request
      rw [heq]
      by_cases hij : j = i
      · subst hij
        obtain rfl := Option.some.inj (hi.symm.trans hj)
        exact ⟨_, List.getElem?_set_self hlt, .take htaken hdone (by rw [heq]) hreal⟩
      · exact ⟨c, (List.getElem?_set_ne hij).trans hi, .none⟩
  | signal channel =>
    exact ⟨c, (congrArg (·[i]?) (signalThrough_calls channel r)).trans hi, .none⟩
  | endInjection outcome =>
    exact ⟨c, (congrArg (·[i]?) (endInjection_calls outcome r)).trans hi, .none⟩
  | openChannel => exact ⟨c, hi, .none⟩
  | copyChannel _ => exact ⟨c, hi, .none⟩
  | dropChannel _ => exact ⟨c, hi, .none⟩
  | dropLoader => exact ⟨c, hi, .none⟩

/-- Who is new has not looked yet. -/
theorem phase_of_new {a : Act} (hi : r.calls[i]? = none)
    (hi' : (machine.step a r).2.calls[i]? = some c) : c.phase = .looking := by
  have hle : r.calls.length ≤ i := List.getElem?_eq_none_iff.1 hi
  -- no act but a request makes the list of requests longer
  have hsame : (machine.step a r).2.calls.length = r.calls.length → c.phase = .looking := by
    intro hlength
    rw [List.getElem?_eq_none (hlength ▸ hle)] at hi'
    cases hi'
  cases a with
  | call hasRuntime =>
    replace hi' : (r.calls ++ [_])[i]? = some c := hi'
    rw [List.getElem?_append_right hle] at hi'
    rw [List.eq_of_mem_singleton (List.mem_of_getElem? hi')]
  | advance j =>
    refine hsame ?_
    show (r.advance j).calls.length = _
    rcases advance_cases j r with heq | ⟨_, _, _, _, _, _, heq⟩
    · rw [heq]
    · rw [heq]
      exact List.length_set
  | poll j =>
    refine hsame ?_
    show (r.poll j).2.calls.length = _
    rcases poll_run_cases j r with heq | ⟨_, _, _, heq⟩
    · rw [heq]
    · rw [heq]
      exact List.length_set
  | signal channel => exact hsame (congrArg List.length (signalThrough_calls channel r))
  | endInjection outcome => exact hsame (congrArg List.length (endInjection_calls outcome r))
  | openChannel => exact hsame rfl
  | copyChannel _ => exact hsame rfl
  | dropChannel _ => exact hsame rfl
  | dropLoader => exact hsame rfl

/-! ### Claims -/

/-- The injection stays claimed, and it is claimed only by a request with a runtime. -/
theorem claimed_step (a : Act) (r : Run) :
    (machine.step a r).2.loader.claimed = r.loader.claimed ∨
      (machine.step a r).2.loader.claimed = true ∧
        ∃ j hasRuntime, a = .advance j ∧ r.calls[j]? = some ⟨hasRuntime, .claiming, false⟩ := by
  cases a with
  | advance j =>
    show (r.advance j).loader.claimed = _ ∨ (r.advance j).loader.claimed = _ ∧ _
    rcases advance_cases j r with heq | ⟨hasRuntime, _, _, _, hj, hmove, heq⟩
    · exact .inl (by rw [heq])
    · rw [heq]
      cases hmove with
      | claim h => exact .inr ⟨rfl, j, hasRuntime, rfl, hj⟩
      | _ => exact .inl rfl
  | poll j =>
    left
    show (r.poll j).2.loader.claimed = _
    rcases poll_run_cases j r with heq | ⟨_, _, _, heq⟩ <;> rw [heq]
  | signal channel =>
    left
    show (r.signalThrough channel).2.loader.claimed = _
    rcases signalThrough_cases channel r with heq | ⟨-, _, heq⟩ | ⟨-, _, _, heq⟩ <;> rw [heq]
  | endInjection outcome =>
    left
    show (r.endInjection outcome).loader.claimed = _
    rcases endInjection_cases outcome r with heq | ⟨-, heq⟩ | ⟨-, -, _, -, heq⟩ <;> rw [heq]
  | _ => exact .inl rfl

/-- What was claimed stays claimed. -/
theorem keeps_claimed : machine.Keeps fun r => r.loader.claimed = true := by
  intro a r h
  rcases claimed_step a r with hsame | ⟨hclaimed, -⟩
  · exact hsame.trans h
  · exact hclaimed

/-! ### Who is refused -/

/-- A request was refused. -/
def Refused (r : Run) (i : Nat) : Prop := ∃ c, r.calls[i]? = some c ∧ c.phase = .refused

/-- A request was made and cannot be refused any more. -/
def IsSpared (i : Nat) (r : Run) : Prop :=
  ∃ c, r.calls[i]? = some c ∧ c.phase ≠ .refused ∧
    (c.phase = .looking → c.hasRuntime = true ∨ c.taken = true ∨ r.loader.claimed = true)

/-- Who is spared is not refused. -/
theorem IsSpared.not_refused (h : r.IsSpared i) : ¬ r.Refused i := by
  obtain ⟨c, hi, hphase, -⟩ := h
  rintro ⟨d, hi', hrefused⟩
  obtain rfl := Option.some.inj (hi.symm.trans hi')
  exact hphase hrefused

/-- Who was made and is not spared was refused, or is about to look without a runtime while
the injection is not claimed. -/
theorem refused_or_looking (h : ¬ r.IsSpared i) (hi : r.calls[i]? = some c) :
    c.phase = .refused ∨ c = ⟨false, .looking, false⟩ ∧ r.loader.claimed = false := by
  by_cases hrefused : c.phase = .refused
  · exact .inl hrefused
  · right
    have hlooks : ¬ (c.phase = .looking →
        c.hasRuntime = true ∨ c.taken = true ∨ r.loader.claimed = true) :=
      fun hlooks => h ⟨c, hi, hrefused, hlooks⟩
    obtain ⟨hasRuntime, phase, taken⟩ := c
    simp only [Classical.not_imp, not_or, Bool.not_eq_true] at hlooks
    obtain ⟨rfl, rfl, rfl, hclaimed⟩ := hlooks
    exact ⟨rfl, hclaimed⟩

/-- Whoever cannot be refused any more never is. -/
theorem keeps_isSpared (i : Nat) : machine.Keeps (IsSpared i) := by
  rintro a r ⟨c, hi, hphase, hlooks⟩
  have hclaimed := keeps_claimed a r
  obtain ⟨c', hi', heffect⟩ := callEffect_step hi a
  cases heffect with
  | none =>
    refine ⟨c, hi', hphase, fun hlooking => ?_⟩
    exact (hlooks hlooking).imp_right fun h => h.imp_right hclaimed
  | @move phase' l htaken hmove =>
    refine ⟨_, hi', ?_, fun hlooking => ?_⟩
    · generalize c.phase = phase at hmove hphase hlooks
      cases hmove with
      -- to be refused it would have to look unclaimed without a runtime, which it is spared
      | refuse hopen hr => simp [hopen, hr, htaken] at hlooks
      | rest _ => exact hphase
      | _ => exact Phase.noConfusion
    · -- no request comes back to where it is about to look
      generalize c.phase = phase at hmove
      cases hmove with
      | rest hdone =>
        rw [show phase' = .looking from hlooking] at hdone
        cases hdone
      | _ => cases hlooking
  | take _ _ _ _ => exact ⟨_, hi', hphase, fun _ => .inr (.inl rfl)⟩

/-- Whoever was refused stays refused. -/
theorem keeps_refused (i : Nat) : machine.Keeps (Refused · i) := by
  rintro a r ⟨c, hi, hphase⟩
  obtain ⟨c', hi', heffect⟩ := callEffect_step hi a
  refine ⟨c', hi', ?_⟩
  cases heffect with
  | none => exact hphase
  | move _ hmove =>
    rw [hphase] at hmove
    cases hmove with
    | rest _ => rfl
  | take _ _ _ _ => exact hphase

/-- A request is refused when it looks without a runtime while the injection is not
claimed. -/
theorem refused_step {a : Act} (hbefore : ¬ r.Refused i) (hafter : (machine.step a r).2.Refused i) :
    a = .advance i ∧ r.calls[i]? = some ⟨false, .looking, false⟩ ∧ r.loader.claimed = false := by
  obtain ⟨c', hi', hrefused⟩ := hafter
  cases hi : r.calls[i]? with
  | none =>
    rw [phase_of_new hi hi'] at hrefused
    cases hrefused
  -- the request was there before, so it moved, and there is one move that refuses
  | some c =>
    obtain ⟨d, hd, heffect⟩ := callEffect_step hi a
    obtain rfl := Option.some.inj (hd.symm.trans hi')
    have hphase : c.phase ≠ .refused := fun hphase => hbefore ⟨c, hi, hphase⟩
    cases heffect with
    | none => exact absurd hrefused hphase
    | @move phase' l htaken hmove =>
      obtain ⟨hasRuntime, phase, taken⟩ := c
      obtain rfl : phase' = .refused := hrefused
      obtain rfl : taken = false := htaken
      cases hmove with
      | refuse hopen hr => exact ⟨rfl, by rw [show hasRuntime = false from hr], hopen⟩
      | rest _ => exact absurd rfl hphase
    | take _ _ _ _ => exact absurd hrefused hphase

/-- A request that is refused in the end has looked without a runtime while nobody had claimed
the injection. -/
theorem exists_look_of_refused {acts : List Act} {r : Run} (hstart : ¬ r.Refused i)
    (hend : (machine.run acts r).Refused i) :
    ∃ before after, acts = before ++ .advance i :: after ∧
      (machine.run before r).calls[i]? = some ⟨false, .looking, false⟩ ∧
      (machine.run before r).loader.claimed = false ∧
      ∀ x ∈ machine.steps before r, x.after.loader.claimed = false := by
  obtain ⟨before, a, after, rfl, hbefore, hafter⟩ :=
    Machine.exists_act (P := fun r : Run => r.Refused i) hstart hend
  obtain ⟨rfl, hlooking, hopen⟩ := refused_step hbefore hafter
  refine ⟨before, after, rfl, hlooking, hopen, fun x hx => ?_⟩
  -- a claim made before would last
  rw [Bool.eq_false_iff]
  intro hclaimed
  rw [keeps_claimed.atEnd_of_after hx hclaimed] at hopen
  cases hopen

/-- Who is told that there is no runtime was refused. -/
theorem refused_of_reply (h : (r.poll i).1 = some (.failed .noRuntime)) : r.Refused i := by
  rcases poll_cases i r with heq | heq | heq | ⟨c, hi, -, hdone, -, heq⟩
  · rw [heq] at h
    cases h
  · rw [heq] at h
    cases h
  · rw [heq] at h
    cases h
  · rw [heq] at h
    refine ⟨c, hi, ?_⟩
    cases hphase : c.phase with
    | refused => rfl
    | waiting =>
      -- whoever waits is told what the load came to, and that is something else
      rw [hphase, answerIn_waiting] at h
      cases hverdict : r.verdict? with
      | none =>
        rw [hverdict] at h
        cases h
      | some answer =>
        rw [hverdict, Option.getD_some] at h
        rcases verdict?_cases hverdict with ⟨outcome, -, rfl⟩ | ⟨-, -, rfl⟩
        · cases outcome <;> cases h
        · cases h
    | _ =>
      rw [hphase] at hdone
      cases hdone

/-! ### Who comes after the claim -/

/-- A request comes after the claim: it waits, or it is about to find the injection
claimed. -/
def Joins (i : Nat) (r : Run) : Prop :=
  r.loader.claimed = true ∧ ∃ c, r.calls[i]? = some c ∧
    (c.phase = .waiting ∨ c.phase = .looking ∧ c.taken = false)

/-- Who comes after the claim does so for good. -/
theorem keeps_joins (i : Nat) : machine.Keeps (Joins i) := by
  rintro a r ⟨hclaimed, c, hi, hphase⟩
  obtain ⟨c', hi', heffect⟩ := callEffect_step hi a
  refine ⟨keeps_claimed a r hclaimed, c', hi', ?_⟩
  cases heffect with
  | none => exact hphase
  | @move phase' l htaken hmove =>
    left
    generalize c.phase = phase at hmove hphase
    cases hmove with
    | join _ => rfl
    | rest hdone =>
      rcases hphase with hwaiting | ⟨hlooking, -⟩
      · exact hwaiting
      · rw [hlooking] at hdone
        cases hdone
    -- the claim lasts, so nobody who comes after it finds the injection open
    | refuse hopen _ | attempt hopen _ =>
      rw [hclaimed] at hopen
      cases hopen
    | _ => rcases hphase with h | ⟨h, -⟩ <;> cases h
  | take _ hdone _ _ =>
    rcases hphase with hwaiting | ⟨hlooking, -⟩
    · exact .inl hwaiting
    · rw [hlooking] at hdone
      cases hdone

namespace Joins

/-- Who comes after the claim is never refused. -/
theorem not_refused (h : r.Joins i) : ¬ r.Refused i := by
  obtain ⟨-, c, hi, hphase⟩ := h
  rintro ⟨d, hi', hrefused⟩
  obtain rfl := Option.some.inj (hi.symm.trans hi')
  rw [hrefused] at hphase
  rcases hphase with h | ⟨h, -⟩ <;> cases h

/-- Who comes after the claim waits after its next step, unless its outcome was taken. -/
theorem waits_advance (h : r.Joins i) :
    (r.advance i).Waits i ∨ ∃ c, r.calls[i]? = some c ∧ c.taken = true := by
  obtain ⟨hclaimed, ⟨hasRuntime, phase, taken⟩, hi, hphase⟩ := h
  have hlt : i < r.calls.length := (List.getElem?_eq_some_iff.1 hi).1
  cases taken with
  | true => exact .inr ⟨_, hi, rfl⟩
  | false =>
    left
    have hstep : phase.step hasRuntime r.loader = (.waiting, r.loader) := by
      rcases hphase with hwaiting | ⟨hlooking, -⟩
      · obtain rfl : phase = .waiting := hwaiting
        rfl
      · obtain rfl : phase = .looking := hlooking
        rw [Phase.step, if_pos hclaimed]
    refine ⟨⟨hasRuntime, .waiting, false⟩, ?_, rfl, rfl⟩
    rw [advance, hi]
    simp only [hstep]
    exact List.getElem?_set_self hlt

/-- Who comes after the claim is told to wait, or that its outcome was taken, or it waits. -/
theorem waits_or_poll (h : r.Joins i) :
    r.Waits i ∨ (r.poll i).1 = some .pending ∨ (r.poll i).1 = some .taken := by
  obtain ⟨-, c, hi, hphase⟩ := h
  cases htaken : c.taken with
  | true =>
    right; right
    rw [poll, hi]
    simp only [htaken, if_true]
  | false =>
    rcases hphase with hwaiting | ⟨hlooking, -⟩
    · exact .inl ⟨c, hi, hwaiting, htaken⟩
    · right; left
      rw [poll, hi]
      simp only [htaken, hlooking, answerIn, Bool.false_eq_true, if_false]

end Joins

/-- An outcome is taken in a step in which the request is answered. -/
theorem Joins.delivers_step {a : Act} (h : r.Joins i)
    (hbefore : ¬ ∃ c, r.calls[i]? = some c ∧ c.taken = true)
    (hafter : ∃ c, (machine.step a r).2.calls[i]? = some c ∧ c.taken = true) :
    a = .poll i ∧ ∃ answer, Delivers (machine.take a r) answer := by
  obtain ⟨-, c, hi, hphase⟩ := h
  obtain ⟨c', hi', htaken⟩ := hafter
  obtain ⟨d, hd, heffect⟩ := callEffect_step hi a
  obtain rfl := Option.some.inj (hd.symm.trans hi')
  cases heffect with
  | none => exact absurd ⟨c, hi, htaken⟩ hbefore
  | move _ _ => cases htaken
  | take huntaken hdone hanswer hreal =>
    -- an outcome is taken only from a request that is done, and this one waits then
    have hwaiting : c.phase = .waiting := by
      rcases hphase with hwaiting | ⟨hlooking, -⟩
      · exact hwaiting
      · rw [hlooking] at hdone
        cases hdone
    exact ⟨rfl, r.answerIn c.phase, i, rfl, ⟨c, hi, hwaiting, huntaken⟩,
      congrArg Reply.answer hanswer, hreal⟩

/-- Whatever happens, who comes after the claim waits after its next step, unless it has been
answered. -/
theorem Joins.waits_or_delivers (h : r.Joins i)
    (huntaken : ¬ ∃ c, r.calls[i]? = some c ∧ c.taken = true) (later : List Act) :
    ((machine.run later r).advance i).Waits i ∨
      ∃ x ∈ machine.steps later r, x.act = .poll i ∧ ∃ answer, Delivers x answer := by
  -- nothing is taken before, so there is a step at which the outcome is taken
  refine ((keeps_joins i).run later h).waits_advance.imp_right fun htaken => ?_
  obtain ⟨x, hx, hbefore, hafter⟩ := Machine.exists_step
    (P := fun r : Run => ∃ c, r.calls[i]? = some c ∧ c.taken = true) huntaken htaken
  refine ⟨x, hx, ?_⟩
  rw [Machine.eq_take_of_mem hx] at hafter ⊢
  exact ((keeps_joins i).before h hx).delivers_step hbefore hafter

/-- Who comes after the claim is told to wait, or that its outcome was taken, or it is
answered. -/
theorem Joins.delivers_poll (h : r.Joins i) :
    (r.poll i).1 = some .pending ∨ (r.poll i).1 = some .taken ∨
      ∃ answer, Delivers (machine.take (.poll i) r) answer := by
  rcases h.waits_or_poll with hwaits | hpending | htaken
  · cases hverdict : r.verdict? with
    | none =>
      left
      rw [hwaits.poll, hverdict]
      rfl
    | some answer =>
      right; right
      have hanswer : (r.poll i).1 = some answer := by
        rw [hwaits.poll, hverdict]
        rfl
      have hreal : answer ≠ .pending := by
        rcases verdict?_cases hverdict with ⟨outcome, -, rfl⟩ | ⟨-, -, rfl⟩
        · cases outcome <;> exact Answer.noConfusion
        · exact Answer.noConfusion
      exact ⟨answer, i, rfl, hwaits, congrArg Reply.answer hanswer, hreal⟩
  · exact .inl hpending
  · exact .inr (.inl htaken)

end Run

end VideoPosters.Player
