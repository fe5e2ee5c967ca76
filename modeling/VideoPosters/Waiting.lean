/-!
# Waiting for two things at once

Who waits looks again and again, in rounds.  Of two things that are waited for, the first
is looked at before the second in each round, and the first failure ends it.

## Main definitions

* `Delayed` — an outcome that is there after some rounds.
* `Delayed.both` — two outcomes, or the first failure.
* `Delayed.isAsked`, `Delayed.isReached` — whether the second is begun, whether the first
  is carried through.
-/

namespace VideoPosters

/-- An outcome that is there after so many rounds in vain. -/
structure Delayed (α : Type) where
  rounds : Nat
  outcome : α
  deriving Repr

namespace Delayed

variable {ε α β : Type}

/-- An outcome that is there at once. -/
def now (outcome : α) : Delayed α := ⟨0, outcome⟩

/-- The outcome changed when it is there. -/
def map (f : α → β) (d : Delayed α) : Delayed β := ⟨d.rounds, f d.outcome⟩

/-- Two outcomes, or the failure that comes first; of two in one round it is that of the
first. -/
def both (first : Delayed (Except ε α)) (second : Delayed (Except ε β)) :
    Delayed (Except ε (α × β)) :=
  match first.outcome, second.outcome with
  | .ok a, .ok b => ⟨max first.rounds second.rounds, .ok (a, b)⟩
  | .error e, .ok _ => ⟨first.rounds, .error e⟩
  | .ok _, .error e => ⟨second.rounds, .error e⟩
  | .error e, .error f =>
    if first.rounds ≤ second.rounds then ⟨first.rounds, .error e⟩ else ⟨second.rounds, .error f⟩

/-- Both succeed iff each of them does. -/
theorem outcome_both_eq_ok_iff {first : Delayed (Except ε α)} {second : Delayed (Except ε β)}
    {a : α} {b : β} :
    (first.both second).outcome = .ok (a, b) ↔ first.outcome = .ok a ∧ second.outcome = .ok b := by
  rw [both]
  cases first.outcome <;> cases second.outcome <;> grind

/-- Whether the second is begun at all: not if the first fails at once. -/
def isAsked (first : Delayed (Except ε α)) : Bool :=
  match first.outcome with
  | .ok _ => true
  | .error _ => 0 < first.rounds

/-- Whether the first comes to its end before a failure of the second. -/
def isReached (first : Delayed (Except ε α)) (second : Delayed (Except ε β)) : Bool :=
  match second.outcome with
  | .ok _ => true
  | .error _ => first.rounds ≤ second.rounds

end Delayed

end VideoPosters
