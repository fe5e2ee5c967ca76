import VideoPosters.Proofs.Player.Requests

/-!
# Requests that are refused leave no trace

A request for the player API that could not start an injection is refused if it finds the
injection not claimed.  Until it looks it is one of those that keep the loader alive; but
then nobody waits yet to whom it could make a difference.  So the requests that are refused
can be left out of a run, with all their steps and with all looks after them, and nothing
else changes but the numbers of the requests.

## Main definitions

* `isOf`, `Act.renumber` — the steps of some requests, and the other acts without them.
* `Run.without`, `stepWithout` — a run, and a step, without some requests.

## Main results

* `Run.without_step`, `Run.step_without` — what a step of a request that is left out does,
  and any other step.
* `Run.steps_without` — the run without the requests that are refused.
* `Run.loader_of_refused`, `Run.refused_of_told` — who is refused changes nothing, and nobody else
  is told that there is no runtime.
* `Run.refused_invisible` — **requests that are refused leave no trace.**
-/

namespace VideoPosters.Player

/-! ### Runs without some requests -/

/-- Whether a step is one of some requests: it makes such a request, moves it on, or looks
after it. -/
def isOf (gone : Nat → Bool) (x : Step) : Bool :=
  match x.act with
  | .call _ => gone x.before.calls.length
  | .advance i | .poll i => gone i
  | _ => false

/-- An act, with the numbers that the requests have without some of them. -/
def Act.renumber (gone : Nat → Bool) : Act → Act
  | .advance i => .advance (newNumber gone i)
  | .poll i => .poll (newNumber gone i)
  | a => a

/-- A run without some requests. -/
def Run.without (gone : Nat → Bool) (r : Run) : Run := { r with calls := leaveOut gone r.calls }

/-- A step without some requests. -/
def stepWithout (gone : Nat → Bool) (x : Step) : Step :=
  ⟨x.before.without gone, x.act.renumber gone, x.reply, x.after.without gone⟩

namespace Run

variable {r : Run} {gone : Nat → Bool} {i : Nat}

@[simp] theorem without_loader (gone : Nat → Bool) (r : Run) :
    (r.without gone).loader = r.loader := rfl

/-- What becomes of a request that is left out makes no difference. -/
theorem without_set (h : gone i = true) (c : Call) (r : Run) :
    ({ r with calls := r.calls.set i c } : Run).without gone = r.without gone :=
  congrArg (fun calls => { r with calls }) (leaveOut_set_of_gone h r.calls c)

/-- A request that is left is found under its new number. -/
theorem getElem?_calls_without (h : gone i = false) (r : Run) :
    (r.without gone).calls[newNumber gone i]? = r.calls[i]? := getElem?_leaveOut h r.calls

/-- A step of a request that is refused makes no difference but to the request itself. -/
theorem without_step (hopen : ∀ i, gone i = true → ¬ r.IsSpared i) {a : Act}
    (ha : isOf gone (machine.take a r) = true) :
    (machine.step a r).2.without gone = r.without gone := by
  cases a with
  | call hasRuntime =>
    have hgone : gone r.calls.length = true := ha
    show (r.call hasRuntime).without gone = _
    rw [call, without, leaveOut_concat, if_pos hgone, List.append_nil]
    rfl
  | advance i =>
    have hgone : gone i = true := ha
    show (r.advance i).without gone = _
    rcases advance_cases i r with heq | ⟨hasRuntime, phase, phase', l, hi, hmove, heq⟩
    · rw [heq]
    · rw [heq]
      -- such a request only looks, and then makes no step any more
      have hloader : l = r.loader := by
        rcases refused_or_looking (hopen i hgone) hi with hrefused | ⟨hlooking, hclaimed⟩
        · obtain rfl : phase = .refused := hrefused
          cases hmove with
          | rest _ => rfl
        · obtain ⟨rfl, rfl, -⟩ := Call.mk.inj hlooking
          cases hmove with
          | refuse _ _ => rfl
          | join _ => rfl
          | attempt _ hr => cases hr
          | rest hdone => cases hdone
      rw [hloader]
      exact without_set hgone _ r
  | poll i =>
    have hgone : gone i = true := ha
    show (r.poll i).2.without gone = _
    rcases poll_run_cases i r with heq | ⟨c, -, -, heq⟩
    · rw [heq]
    · rw [heq]
      exact without_set hgone _ r
  | _ => cases ha

/-- While somebody waits, those that are refused do not keep the loader alive. -/
theorem isOwned_without (hopen : ∀ i, gone i = true → ¬ r.IsSpared i)
    (hclaimed : r.loader.claimed = true) : (r.without gone).isOwned = r.isOwned := by
  have hrunning : (leaveOut gone r.calls).any Call.isRunning = r.calls.any Call.isRunning := by
    refine any_leaveOut fun i c hgone hi => ?_
    rcases refused_or_looking (hopen i hgone) hi with hrefused | ⟨-, hunclaimed⟩
    · rw [Call.isRunning, hrefused]
      exact Bool.and_false _
    · rw [hclaimed] at hunclaimed
      cases hunclaimed
  rw [isOwned, isOwned, ← hrunning]
  rfl

/-- A request that is left is told the same. -/
theorem answerIn_without (h : r.IsOrderly) (hopen : ∀ i, gone i = true → ¬ r.IsSpared i) {c : Call}
    (hi : r.calls[i]? = some c) : (r.without gone).answerIn c.phase = r.answerIn c.phase := by
  have hfits := h.fits c (List.mem_of_getElem? hi)
  cases hphase : c.phase with
  | waiting =>
    -- who waits comes after the claim, so the refused ones never kept the loader alive
    rw [hphase] at hfits
    rw [answerIn, answerIn, isOwned_without hopen hfits, without_loader]
  | _ => rfl

/-- What settles the load does not look at the requests. -/
theorem signalThrough_without (gone : Nat → Bool) (channel : Option Nat) (r : Run) :
    (r.without gone).signalThrough channel =
      ((r.signalThrough channel).1, (r.signalThrough channel).2.without gone) := by
  rw [signalThrough.eq_def, signalThrough.eq_def]
  cases channel with
  | none =>
    cases hthere : r.isHeld <;> simp [without, hthere, signal]
  | some i =>
    cases hthere : r.channels[i]?.getD false <;> simp [without, hthere, signal]

theorem endInjection_without (gone : Nat → Bool) (outcome : Except String Unit) (r : Run) :
    (r.without gone).endInjection outcome = (r.endInjection outcome).without gone := by
  rw [endInjection.eq_def, endInjection.eq_def]
  by_cases hlt : r.ended < r.loader.injections
  · cases outcome <;> simp [without, hlt]
  · simp [without, hlt]

/-- Any other step is made without the requests that are refused just as with them. -/
theorem step_without (h : r.IsOrderly) (hopen : ∀ i, gone i = true → ¬ r.IsSpared i) {a : Act}
    (ha : isOf gone (machine.take a r) = false) :
    machine.step (a.renumber gone) (r.without gone) =
      ((machine.step a r).1, (machine.step a r).2.without gone) := by
  cases a with
  | call hasRuntime =>
    have hgone : gone r.calls.length = false := ha
    show (Reply.nothing, (r.without gone).call hasRuntime) =
      (Reply.nothing, (r.call hasRuntime).without gone)
    -- the new request gets the number that the shorter list gives it
    rw [call, call, without, without, leaveOut_concat, hgone]
    rfl
  | advance i =>
    have hgone : gone i = false := ha
    show (Reply.nothing, (r.without gone).advance (newNumber gone i)) =
      (Reply.nothing, (r.advance i).without gone)
    rw [advance, advance, getElem?_calls_without hgone]
    split
    · rw [without, without, leaveOut_set hgone]
    · rfl
  | poll i =>
    have hgone : gone i = false := ha
    show (Reply.answer ((r.without gone).poll (newNumber gone i)).1,
        ((r.without gone).poll (newNumber gone i)).2) =
      (Reply.answer (r.poll i).1, (r.poll i).2.without gone)
    rw [poll, poll, getElem?_calls_without hgone]
    cases hi : r.calls[i]? with
    | none => rfl
    | some c =>
      simp only [answerIn_without h hopen hi]
      split
      · rfl
      · split
        · rfl
        · rw [without, without, leaveOut_set hgone]
  | signal channel =>
    show (Reply.settled ((r.without gone).signalThrough channel).1,
        ((r.without gone).signalThrough channel).2) =
      (Reply.settled (r.signalThrough channel).1, (r.signalThrough channel).2.without gone)
    rw [signalThrough_without]
  | endInjection outcome =>
    show (Reply.nothing, (r.without gone).endInjection outcome) =
      (Reply.nothing, (r.endInjection outcome).without gone)
    rw [endInjection_without]
  | _ => rfl

/-- **The run without the requests that are refused.** -/
theorem steps_without (h : r.IsOrderly) (acts : List Act)
    (hgone : ∀ i, gone i = true → (machine.run acts r).Refused i) :
    let left := (machine.steps acts r).filter (!isOf gone ·)
    machine.steps (left.map fun x => x.act.renumber gone) (r.without gone) =
        left.map (stepWithout gone) ∧
      machine.run (left.map fun x => x.act.renumber gone) (r.without gone) =
        (machine.run acts r).without gone := by
  induction acts generalizing r with
  | nil => exact ⟨rfl, rfl⟩
  | cons a acts ih =>
    have hopen : ∀ i, gone i = true → ¬ r.IsSpared i := fun i hi hspared =>
      IsSpared.not_refused ((keeps_isSpared i).run (a :: acts) hspared) (hgone i hi)
    obtain ⟨hsteps, hrun⟩ := ih (h.step a) hgone
    intro left
    cases ha : isOf gone (machine.take a r) with
    | true =>
      -- the step is left out, and so is what it changes
      have hleft : left = (machine.steps acts (machine.step a r).2).filter (!isOf gone ·) := by
        simp only [left, Machine.steps_cons, List.filter_cons, ha]
        rfl
      rw [hleft, ← without_step hopen ha]
      exact ⟨hsteps, hrun⟩
    | false =>
      have hleft : left = machine.take a r ::
          (machine.steps acts (machine.step a r).2).filter (!isOf gone ·) := by
        simp only [left, Machine.steps_cons, List.filter_cons, ha]
        rfl
      have hstep := step_without h hopen ha
      have hact : (machine.take a r).act.renumber gone = a.renumber gone := rfl
      rw [hleft, List.map_cons, List.map_cons, Machine.steps_cons, Machine.run_cons, hact,
        Machine.take, hstep]
      refine ⟨?_, hrun⟩
      rw [hsteps]
      rfl

/-! ### Whole runs -/

variable {acts : List Act} {x : Step}

/-- Neither a step of a request that is refused nor a look after it changes the loader. -/
theorem loader_of_refused (hi : (machine.run acts r).Refused i) (hx : x ∈ machine.steps acts r)
    (hof : isOf (· == i) x = true) : x.after.loader = x.before.loader := by
  have hopen : ∀ j, (j == i) = true → ¬ x.before.IsSpared j := by
    intro j hj hspared
    rw [eq_of_beq hj] at hspared
    exact ((keeps_isSpared i).atEnd hx hspared).not_refused hi
  have htake := Machine.eq_take_of_mem hx
  rw [htake] at hof
  have hsame := congrArg Run.loader (without_step hopen hof)
  rw [htake]
  exact hsame

/-- Only a request with a runtime claims the injection. -/
theorem act_of_claim (h : r.IsOrderly) (hx : x ∈ machine.steps acts r)
    (hopen : x.before.loader.claimed = false) (hclaimed : x.after.loader.claimed = true) :
    ∃ j, x.act = .advance j ∧ x.before.calls[j]? = some ⟨true, .claiming, false⟩ := by
  rw [Machine.eq_take_of_mem hx] at hclaimed
  replace hclaimed : (machine.step x.act x.before).2.loader.claimed = true := hclaimed
  rcases claimed_step x.act x.before with hsame | ⟨-, j, hasRuntime, hact, hj⟩
  · rw [hsame, hopen] at hclaimed
    cases hclaimed
  · have hfits := (keeps_isOrderly.before h hx).fits _ (List.mem_of_getElem? hj)
    obtain rfl : hasRuntime = true := hfits
    exact ⟨j, hact, hj⟩

/-- Only a request that is refused is told that there is no runtime. -/
theorem refused_of_told (hx : x ∈ machine.steps acts r) (hact : x.act = .poll i)
    (hreply : x.reply = .answer (some (.failed .noRuntime))) : (machine.run acts r).Refused i := by
  rw [Machine.eq_take_of_mem hx, hact] at hreply
  exact (keeps_refused i).atEnd hx (refused_of_reply (Reply.answer.inj hreply))

/-- Who comes after the claim is told the final answer while it waits, or to wait for it, or that
its outcome was taken. -/
theorem Joins.reply_of_poll (h : r.Joins i) (hx : x ∈ machine.steps acts r)
    (hact : x.act = .poll i) :
    (x.before.Waits i → x.reply = .answer (some (x.before.verdict?.getD .pending))) ∧
    (x.reply = .answer (some .pending) ∨ x.reply = .answer (some .taken) ∨
      ∃ answer, Delivers x answer) := by
  have htake : x = machine.take (.poll i) x.before := by
    rw [← hact]
    exact Machine.eq_take_of_mem hx
  have hreply : x.reply = .answer (x.before.poll i).1 := by
    rw [htake]
    rfl
  refine ⟨fun hwaits => by rw [hreply, hwaits.poll], ?_⟩
  rcases ((keeps_joins i).before h hx).delivers_poll with hpending | htaken | ⟨answer, hdelivers⟩
  · exact .inl (by rw [hreply, hpending])
  · exact .inr (.inl (by rw [hreply, htaken]))
  · rw [← htake] at hdelivers
    exact .inr (.inr ⟨answer, hdelivers⟩)

/-- A request that looks once the injection is claimed comes after the claim, and nothing has been
taken from it. -/
theorem joins_of_looking {hasRuntime : Bool} (hi : r.calls[i]? = some ⟨hasRuntime, .looking, false⟩)
    (hclaimed : r.loader.claimed = true) :
    r.Joins i ∧ ¬ ∃ c, r.calls[i]? = some c ∧ c.taken = true := by
  refine ⟨⟨hclaimed, _, hi, .inr ⟨rfl, rfl⟩⟩, ?_⟩
  rintro ⟨c, hc, htaken⟩
  obtain rfl := Option.some.inj (hi.symm.trans hc)
  cases htaken

/-- **Requests that are refused leave no trace.**  Whatever happens, and in whatever order: a
request that is refused has looked without a runtime while nobody had claimed the injection,
which only a request with a runtime can claim; neither its steps nor the looks after it
change anything of the loader; and nobody else is told that there is no runtime.  Any of the
requests that are refused can be left out, with all their steps and all looks after them:
then the run takes just the steps that are left, with the same replies, the same loader
after each of them, and the same end.  From when the injection is claimed, a request is not
refused even without a runtime: it waits, is told the final answer as soon as there is one, and
no request that waited is ever told anything else. -/
theorem refused_invisible (scriptUrl : String) (acts : List Act) :
    let start := ofScript scriptUrl
    let r := machine.run acts start
    let history := machine.steps acts start
    (∀ i, r.Refused i →
      (∃ before after, acts = before ++ .advance i :: after ∧
        (machine.run before start).calls[i]? = some ⟨false, .looking, false⟩ ∧
        (machine.run before start).loader.claimed = false ∧
        ∀ x ∈ machine.steps before start, x.after.loader.claimed = false) ∧
      ∀ x ∈ history, isOf (· == i) x = true → x.after.loader = x.before.loader) ∧
    (∀ x ∈ history, x.before.loader.claimed = false → x.after.loader.claimed = true →
      ∃ j, x.act = .advance j ∧ x.before.calls[j]? = some ⟨true, .claiming, false⟩) ∧
    (∀ x ∈ history, ∀ i, x.act = .poll i → x.reply = .answer (some (.failed .noRuntime)) →
      r.Refused i) ∧
    (∀ gone : Nat → Bool, (∀ i, gone i = true → r.Refused i) →
      let left := history.filter (!isOf gone ·)
      machine.steps (left.map fun x => x.act.renumber gone) start = left.map (stepWithout gone) ∧
      machine.run (left.map fun x => x.act.renumber gone) start = r.without gone) ∧
    (∀ i hasRuntime, r.calls[i]? = some ⟨hasRuntime, .looking, false⟩ →
      r.loader.claimed = true → ∀ later,
        let s := machine.run later r
        let future := machine.steps later r
        ¬ s.Refused i ∧
        ((s.advance i).Waits i ∨
          ∃ x ∈ future, x.act = .poll i ∧ ∃ answer, Delivers x answer) ∧
        ∀ x ∈ future, x.act = .poll i →
          (x.before.Waits i → x.reply = .answer (some (x.before.verdict?.getD .pending))) ∧
          (x.reply = .answer (some .pending) ∨ x.reply = .answer (some .taken) ∨
            ∃ answer, Delivers x answer ∧
              ∀ y ∈ history ++ future, ∀ answer', Delivers y answer' → answer' = answer)) := by
  intro start r history
  have hstart := isOrderly_ofScript scriptUrl
  refine ⟨fun i hi => ⟨?_, fun x hx hof => loader_of_refused hi hx hof⟩,
    fun x hx hopen hclaimed => act_of_claim hstart hx hopen hclaimed,
    fun x hx i hact hreply => refused_of_told hx hact hreply,
    fun gone hgone => steps_without hstart acts hgone, fun i hasRuntime hi hclaimed later => ?_⟩
  · have hnone : ¬ start.Refused i := by
      rintro ⟨c, hc, -⟩
      cases hc
    exact exists_look_of_refused hnone hi
  intro s future
  obtain ⟨hjoins, huntaken⟩ := joins_of_looking hi hclaimed
  have hlater : s.Joins i := (keeps_joins i).run later hjoins
  -- what was told before the request looked, or after it, is the final answer at the end
  have hfinal : ∀ y ∈ history ++ future, ∀ answer, Delivers y answer →
      s.verdict? = some answer := by
    intro y hy answer hdelivers
    rcases List.mem_append.1 hy with hy | hy
    · exact (keeps_verdict answer).run later (verdict?_run_of_delivers hy hdelivers)
    · exact verdict?_run_of_delivers hy hdelivers
  refine ⟨hlater.not_refused, hjoins.waits_or_delivers huntaken later, fun x hx hact => ?_⟩
  obtain ⟨hwaits, hreply⟩ := hjoins.reply_of_poll hx hact
  refine ⟨hwaits, hreply.imp_right (Or.imp_right fun ⟨answer, hdelivers⟩ => ?_)⟩
  refine ⟨answer, hdelivers, fun y hy answer' hdelivers' => ?_⟩
  have hsame := hfinal x (List.mem_append_right _ hx) answer hdelivers
  exact Option.some.inj ((hfinal y hy answer' hdelivers').symm.trans hsame)

/-- The script is ready early, and a request with a runtime is about to claim the injection
when one without a runtime is refused; another one without a runtime comes after the claim. -/
theorem refused_invisible_race :
    let start := ofScript "https://www.youtube.com/iframe_api"
    let before : List Act := [.call false, .call true, .signal none, .advance 1, .advance 0,
      .advance 1, .call false]
    let later : List Act := [.advance 2, .advance 1, .advance 1, .poll 0, .poll 2]
    let r := machine.run (before ++ later) start
    r.Refused 0 ∧ r.loader.injections = 1 ∧
      machine.run [.call true, .signal none, .advance 0, .advance 0, .call false, .advance 1,
        .advance 0, .advance 0, .poll 1] start = r.without (· == 0) ∧
      ¬ r.Refused 2 := by
  intro start before later r
  have hcalls : r.calls = [⟨false, .refused, true⟩, ⟨true, .waiting, false⟩,
      ⟨false, .waiting, true⟩] := by
    decide +kernel
  have hrefused : r.Refused 0 := ⟨_, by rw [hcalls]; rfl, rfl⟩
  have hgone : ∀ i, (i == 0) = true → r.Refused i := by
    intro i hi
    rw [eq_of_beq hi]
    exact hrefused
  obtain ⟨-, -, -, hwithout, -⟩ :=
    refused_invisible "https://www.youtube.com/iframe_api" (before ++ later)
  have hright := (hwithout (· == 0) hgone).2
  have hleft : ((machine.steps (before ++ later) start).filter (!isOf (· == 0) ·)).map
      (fun x => x.act.renumber (· == 0)) =
    [.call true, .signal none, .advance 0, .advance 0, .call false, .advance 1,
        .advance 0, .advance 0, .poll 1] := by
    rfl
  have hlooking : (machine.run before start).calls[2]? = some ⟨false, .looking, false⟩ := by
    decide +kernel
  have hclaimed : (machine.run before start).loader.claimed = true := by
    decide +kernel
  obtain ⟨-, -, -, -, hjoins⟩ := refused_invisible "https://www.youtube.com/iframe_api" before
  obtain ⟨hnot, -⟩ := hjoins 2 false hlooking hclaimed later
  rw [← Machine.run_append] at hnot
  refine ⟨hrefused, by decide +kernel, ?_, hnot⟩
  rw [← hleft]
  exact hright

end Run

end VideoPosters.Player
