import VideoPosters.Proofs.Template.ShelfSteps
import VideoPosters.Rehearsal.Fetching

/-!
# Rehearsals of fetching templates are runs

Whatever is done in a rehearsal, the run of the shelf in it only ever goes where resolving
specifiers and looking after orders can take it, however the looks of several orders are
arranged.  All that is true of whole runs is therefore true of rehearsals.

## Main results

* `Fetching.reaches_perform` — **no act of a rehearsal leads out of the runs.**
-/

namespace VideoPosters.Rehearsal.Fetching

open Template

/-! ### Looking after orders -/

theorem reaches_pollWith (i : Nat) (arrival : Arrival) (s : Fetching) :
    Shelf.Run.machine.Reaches s.run (s.pollWith i arrival).2.run := by
  rw [pollWith]
  split
  · exact Shelf.Run.reaches_perform (.poll i (some arrival.outcome)) s.run
  · exact Shelf.Run.reaches_perform (.poll i none) s.run

theorem reaches_poll (i : Nat) (s : Fetching) :
    Shelf.Run.machine.Reaches s.run (s.poll i).2.run := by
  rw [poll]
  split
  · exact reaches_pollWith i _ s
  · exact reaches_pollWith i _ s
  · exact Shelf.Run.reaches_perform (.poll i none) s.run
  · exact Shelf.Run.reaches_perform (.poll i none) s.run

theorem reaches_pollTimes (n i : Nat) (s : Fetching) :
    Shelf.Run.machine.Reaches s.run (pollTimes n i s).2.run := by
  induction n generalizing s with
  | zero => exact .refl _
  | succ n ih =>
    have hpoll := reaches_poll i s
    rw [pollTimes]
    split
    · next s' heq =>
      rw [heq] at hpoll
      exact hpoll.trans (ih s')
    · next heq =>
      rw [heq] at hpoll
      exact hpoll

theorem reaches_await (i : Nat) (s : Fetching) :
    Shelf.Run.machine.Reaches s.run (s.await i).2.run := by
  have hpoll := reaches_poll i s
  rw [await]
  split
  · next s' heq =>
    -- only who is told to wait looks again
    have htimes := reaches_pollTimes (s'.roundsLeft + 1) i s'
    rw [heq] at hpoll
    split
    · next heq' =>
      rw [heq'] at htimes
      exact hpoll.trans htimes
    · next heq' =>
      rw [heq'] at htimes
      exact hpoll.trans htimes
  · next heq =>
    rw [heq] at hpoll
    exact hpoll
  · next heq =>
    rw [heq] at hpoll
    exact hpoll

theorem reaches_pollEach (orders : List (Nat × Option Outcome)) (s : Fetching) :
    Shelf.Run.machine.Reaches s.run (pollEach orders s).2.run := by
  induction orders generalizing s with
  | nil => exact .refl _
  | cons order rest ih =>
    obtain ⟨i, outcome⟩ := order
    cases outcome with
    | some outcome => exact ih s
    | none =>
      have hsnd : (pollEach ((i, none) :: rest) s).2 = (pollEach rest (s.poll i).2).2 := by
        rw [pollEach]
        generalize s.poll i = polled
        obtain ⟨status, s'⟩ := polled
        cases status <;> rfl
      rw [hsnd]
      exact (reaches_poll i s).trans (ih (s.poll i).2)

theorem reaches_pollRounds (n : Nat) (orders : List (Nat × Option Outcome)) (s : Fetching) :
    Shelf.Run.machine.Reaches s.run (pollRounds n orders s).2.run := by
  induction n generalizing orders s with
  | zero => exact .refl _
  | succ n ih => exact (reaches_pollEach orders s).trans (ih _ _)

theorem reaches_join (orders : List Nat) (s : Fetching) :
    Shelf.Run.machine.Reaches s.run (s.join orders).2.run := by
  rw [join]
  exact (reaches_pollEach _ s).trans (reaches_pollRounds _ _ _)

/-! ### Seeing templates -/

/-- Seeing a template does not touch the run. -/
theorem see_run (template : Compiled) (s : Fetching) : (s.see template).2.run = s.run := by
  rw [see]
  split <;> rfl

theorem seeAll_run (outcomes : List Outcome) (s : Fetching) :
    (seeAll outcomes s).2.run = s.run := by
  induction outcomes generalizing s with
  | nil => rfl
  | cons outcome rest ih =>
    cases outcome with
    | ok template => exact (ih _).trans (see_run template s)
    | error e => exact ih s

theorem delivered_run (awaited : Option Outcome × Fetching) :
    (delivered awaited).2.run = awaited.2.run := by
  rw [delivered.eq_def]
  split
  · exact see_run _ _
  · rfl
  · rfl

/-! ### Acts -/

/-- **No act of a rehearsal leads out of the runs.** -/
theorem reaches_perform {act : Act} {s s' : Fetching} {reply : Reply}
    (h : s.perform act = some (reply, s')) : Shelf.Run.machine.Reaches s.run s'.run := by
  cases act with
  | resolve spec =>
    have horder := Shelf.Run.reaches_perform (.order s.embedded? spec) s.run
    rw [Shelf.Run.perform] at horder
    rw [perform] at h
    -- an order that is made is awaited at once, and one that is refused is left at that
    split at h
    · next i run heq =>
      rw [heq] at horder
      have hrun := delivered_run (await i { s with run })
      rw [Option.some.inj h] at hrun
      rw [hrun]
      exact horder.trans (reaches_await i { s with run })
    · next heq =>
      rw [heq] at horder
      cases h
      exact horder
  | start spec =>
    have horder := Shelf.Run.reaches_perform (.order s.embedded? spec) s.run
    rw [Shelf.Run.perform] at horder
    rw [perform] at h
    split at h <;>
    · next heq =>
      rw [heq] at horder
      cases h
      exact horder
  | await i =>
    obtain ⟨order, -, h⟩ := Option.bind_eq_some_iff.1 h
    have hrun := delivered_run (s.await order)
    rw [Option.some.inj h] at hrun
    rw [hrun]
    exact reaches_await order s
  | join list =>
    obtain ⟨orders, -, h⟩ := Option.bind_eq_some_iff.1 h
    cases h
    rw [seeAll_run]
    exact reaches_join orders s
  | drop i =>
    obtain ⟨order, -, h⟩ := Option.bind_eq_some_iff.1 h
    cases h
    exact Shelf.Run.reaches_perform (.drop order) s.run
  | render i data =>
    obtain ⟨template, -, h⟩ := Option.bind_eq_some_iff.1 h
    cases h
    exact .refl _
  | setTag i tag =>
    obtain ⟨template, -, h⟩ := Option.bind_eq_some_iff.1 h
    cases h
    exact .refl _
  | tag i =>
    obtain ⟨template, -, h⟩ := Option.bind_eq_some_iff.1 h
    cases h
    exact .refl _
  | contains spec =>
    cases h
    exact .refl _
  | isEmpty =>
    cases h
    exact .refl _

end VideoPosters.Rehearsal.Fetching
