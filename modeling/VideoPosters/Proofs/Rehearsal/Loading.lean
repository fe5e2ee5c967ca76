import VideoPosters.Proofs.Player.Steps
import VideoPosters.Rehearsal.Loading

/-!
# Rehearsals of loading the player API are runs

Whatever is done in a rehearsal, the run of the player loader in it only ever goes where
requests, looks, signals, ends of injections and owners can take it.  All that is true of
whole runs is therefore true of rehearsals.

## Main results

* `Loading.reaches_perform` — **no act of a rehearsal leads out of the runs.**
-/

namespace VideoPosters.Rehearsal.Loading

open Player

/-- A request with all its steps is a request and four steps. -/
theorem reaches_load (hasRuntime : Bool) (r : Run) :
    Run.machine.Reaches r (r.load hasRuntime) :=
  ⟨.call hasRuntime :: List.replicate 4 (.advance r.calls.length), rfl⟩

theorem reaches_runTasks (s : Loading) : Run.machine.Reaches s.run s.runTasks.2.run := by
  rw [runTasks]
  split
  · -- one injection ends after the other
    exact Machine.reaches_repeat id (Run.reaches_perform (.endInjection _)) _ s.run
  · exact .refl _

theorem reaches_release (s : Loading) : Run.machine.Reaches s.run s.release.2.run :=
  reaches_runTasks { s with isReleased := true }

theorem look_run (i : Nat) (s : Loading) : (s.look i).2.run = (s.run.poll i).2 := by
  rw [look]
  split <;> next heq => rw [heq]

theorem reaches_look (i : Nat) (s : Loading) : Run.machine.Reaches s.run (s.look i).2.run := by
  rw [look_run]
  exact Run.reaches_perform (.poll i) s.run

theorem reaches_await (i : Nat) (s : Loading) :
    Run.machine.Reaches s.run (s.await i).2.2.run := by
  have hlook := reaches_look i s
  rw [await]
  split
  · -- a request without an answer is looked after once more when the tasks have run
    next s' heq =>
    rw [heq] at hlook
    exact hlook.trans ((reaches_runTasks s').trans (reaches_look i s'.runTasks.2))
  · next heq =>
    rw [heq] at hlook
    exact hlook

theorem reaches_awaitAll (requests : List Nat) (s : Loading) :
    Run.machine.Reaches s.run (awaitAll requests s).2.2.run := by
  induction requests generalizing s with
  | nil => exact .refl _
  | cons i rest ih => exact (reaches_await i s).trans (ih (s.await i).2.2)

/-- **No act of a rehearsal leads out of the runs.** -/
theorem reaches_perform {act : Act} {s s' : Loading} {reply : Reply} {scripts : List String}
    (h : s.perform act = some (reply, scripts, s')) : Run.machine.Reaches s.run s'.run := by
  cases act with
  | load hasRuntime =>
    cases h
    exact reaches_load hasRuntime s.run
  | look i =>
    obtain ⟨sight, -, heq⟩ := Option.map_eq_some_iff.1 h
    cases heq
    exact reaches_look i s
  | awaitAll =>
    cases h
    exact reaches_awaitAll s.unfinished s
  | runTasks =>
    cases h
    exact reaches_runTasks s
  | release =>
    cases h
    exact reaches_release s
  | openChannel =>
    cases h
    exact Run.reaches_perform .openChannel s.run
  | signal channel =>
    cases channel with
    | none =>
      cases h
      exact Run.reaches_perform (.signal none) s.run
    | some i =>
      rw [perform] at h
      split at h
      · cases h
        exact Run.reaches_perform (.signal (some i)) s.run
      · cases h
  | callback =>
    cases h
    exact Run.reaches_perform (.signal none) s.run
  | dropLoader =>
    cases h
    exact Run.reaches_perform .dropLoader s.run
  | dropChannel i =>
    rw [perform] at h
    split at h
    · cases h
      exact Run.reaches_perform (.dropChannel i) s.run
    · cases h

end VideoPosters.Rehearsal.Loading
