/-!
# Machines and their histories

A machine takes acts one after the other.  Its history is the list of the steps it took,
each with the state before and after it.  What every step keeps holds for good once it
holds, and what holds at the end without having held at the start came about in a step.

## Main definitions

* `Machine`, `Machine.Step` — a machine, and a step it took.
* `Machine.run`, `Machine.steps` — the state after some acts, and the steps up to it.
* `Machine.Reaches` — whether some acts lead from one state to the other.
* `Machine.Keeps` — what no step undoes.

## Main results

* `Machine.reaches_repeat` — what can be done once can be done again and again.
* `Machine.Keeps.run` — **what no step undoes holds for good.**
* `Machine.exists_act`, `Machine.exists_step` — what came to hold came to hold in a step.
* `Machine.length_filter_steps_le_one` — what rules itself out happens once at most.
* `Machine.add_countP_steps` — what grows in just the steps of some kind counts them.
-/

namespace VideoPosters

/-- A machine: what an act comes to in a state, and the next state. -/
structure Machine (σ α ρ : Type) where
  step : α → σ → ρ × σ

namespace Machine

variable {σ α ρ : Type}

/-- A step of a machine. -/
structure Step (σ α ρ : Type) where
  before : σ
  act : α
  reply : ρ
  after : σ

variable (m : Machine σ α ρ)

/-- The step that an act makes in a state. -/
def take (a : α) (s : σ) : Step σ α ρ := ⟨s, a, (m.step a s).1, (m.step a s).2⟩

/-- The state after some acts. -/
def run : List α → σ → σ
  | [], s => s
  | a :: acts, s => run acts (m.step a s).2

/-- The steps that some acts make, in order. -/
def steps : List α → σ → List (Step σ α ρ)
  | [], _ => []
  | a :: acts, s => m.take a s :: steps acts (m.step a s).2

@[simp] theorem run_nil (s : σ) : m.run [] s = s := rfl

@[simp] theorem run_cons (a : α) (acts : List α) (s : σ) :
    m.run (a :: acts) s = m.run acts (m.step a s).2 := rfl

@[simp] theorem steps_nil (s : σ) : m.steps [] s = [] := rfl

@[simp] theorem steps_cons (a : α) (acts : List α) (s : σ) :
    m.steps (a :: acts) s = m.take a s :: m.steps acts (m.step a s).2 := rfl

theorem run_append (acts more : List α) (s : σ) :
    m.run (acts ++ more) s = m.run more (m.run acts s) := by
  induction acts generalizing s with
  | nil => rfl
  | cons a acts ih => rw [List.cons_append, run_cons, run_cons, ih]

/-- Whether some acts lead from one state to the other. -/
def Reaches (s t : σ) : Prop := ∃ acts, m.run acts s = t

variable {m}

theorem Reaches.refl (s : σ) : m.Reaches s s := ⟨[], rfl⟩

theorem Reaches.trans {s t u : σ} (h : m.Reaches s t) (h' : m.Reaches t u) : m.Reaches s u := by
  obtain ⟨acts, rfl⟩ := h
  obtain ⟨more, rfl⟩ := h'
  exact ⟨acts ++ more, m.run_append acts more s⟩

theorem reaches_step (a : α) (s : σ) : m.Reaches s (m.step a s).2 := ⟨[a], rfl⟩

/-- A change to some part of the state that the machine can make once can be made any number of
times. -/
theorem reaches_repeat {τ : Type} (part : τ → σ) {f : τ → τ}
    (hf : ∀ t, m.Reaches (part t) (part (f t))) (n : Nat) (t : τ) :
    m.Reaches (part t) (part (n.repeat f t)) := by
  induction n with
  | zero => exact .refl (part t)
  | succ n ih => exact ih.trans (hf (n.repeat f t))

/-- Every step is made by its act in the state before it. -/
theorem eq_take_of_mem {x : Step σ α ρ} {acts : List α} {s : σ} (hx : x ∈ m.steps acts s) :
    x = m.take x.act x.before := by
  induction acts generalizing s with
  | nil => cases hx
  | cons a acts ih =>
    rcases List.mem_cons.1 hx with rfl | hx
    · rfl
    · exact ih hx

/-- Every act makes its step in the state after those before it. -/
theorem take_mem_steps (before : List α) (a : α) (after : List α) (s : σ) :
    m.take a (m.run before s) ∈ m.steps (before ++ a :: after) s := by
  induction before generalizing s with
  | nil => exact List.mem_cons_self
  | cons b before ih => exact List.mem_cons_of_mem _ (ih (m.step b s).2)

/-- What no step undoes. -/
def Keeps (m : Machine σ α ρ) (P : σ → Prop) : Prop := ∀ a s, P s → P (m.step a s).2

variable {P : σ → Prop}

/-- **What no step undoes holds for good.** -/
theorem Keeps.run (h : m.Keeps P) (acts : List α) {s : σ} (hs : P s) : P (m.run acts s) := by
  induction acts generalizing s with
  | nil => exact hs
  | cons a acts ih => exact ih (h a s hs)

/-- What holds at the start and is not undone holds before every step. -/
theorem Keeps.before (h : m.Keeps P) {acts : List α} {s : σ} (hs : P s) {x : Step σ α ρ}
    (hx : x ∈ m.steps acts s) : P x.before := by
  induction acts generalizing s with
  | nil => cases hx
  | cons a acts ih =>
    rcases List.mem_cons.1 hx with rfl | hx
    · exact hs
    · exact ih (h a s hs) hx

/-- What holds before some step and is not undone holds at the end. -/
theorem Keeps.atEnd (h : m.Keeps P) {acts : List α} {s : σ} {x : Step σ α ρ}
    (hx : x ∈ m.steps acts s) (hP : P x.before) : P (m.run acts s) := by
  induction acts generalizing s with
  | nil => cases hx
  | cons a acts ih =>
    rcases List.mem_cons.1 hx with rfl | hx
    · exact h.run acts (h a s hP)
    · exact ih hx

/-- What holds after some step and is not undone holds at the end. -/
theorem Keeps.atEnd_of_after (h : m.Keeps P) {acts : List α} {s : σ} {x : Step σ α ρ}
    (hx : x ∈ m.steps acts s) (hP : P x.after) : P (m.run acts s) := by
  induction acts generalizing s with
  | nil => cases hx
  | cons a acts ih =>
    rcases List.mem_cons.1 hx with rfl | hx
    · exact h.run acts hP
    · exact ih hx

/-- What holds at the end and did not hold at the start came to hold with one of the acts. -/
theorem exists_act {acts : List α} {s : σ} (hs : ¬ P s) (hend : P (m.run acts s)) :
    ∃ before a after, acts = before ++ a :: after ∧ ¬ P (m.run before s) ∧
      P (m.step a (m.run before s)).2 := by
  induction acts generalizing s with
  | nil => exact absurd hend hs
  | cons a acts ih =>
    by_cases h : P (m.step a s).2
    · exact ⟨[], a, acts, rfl, hs, h⟩
    · obtain ⟨before, b, after, rfl, hbefore, hafter⟩ := ih h hend
      exact ⟨a :: before, b, after, rfl, hbefore, hafter⟩

/-- What holds at the end and did not hold at the start came to hold in a step. -/
theorem exists_step {acts : List α} {s : σ} (hs : ¬ P s) (hend : P (m.run acts s)) :
    ∃ x ∈ m.steps acts s, ¬ P x.before ∧ P x.after := by
  obtain ⟨before, a, after, rfl, hbefore, hafter⟩ := exists_act hs hend
  exact ⟨m.take a (m.run before s), m.take_mem_steps before a after s, hbefore, hafter⟩

/-- What just the steps of some kind bring about holds at the end if it held at the start
or there was such a step. -/
theorem apply_run_eq_or_any {q : σ → Bool} {E : Step σ α ρ → Bool}
    (h : ∀ a s, q (m.step a s).2 = (q s || E (m.take a s))) (acts : List α) (s : σ) :
    q (m.run acts s) = (q s || (m.steps acts s).any E) := by
  induction acts generalizing s with
  | nil => exact (Bool.or_false _).symm
  | cons a acts ih => rw [run_cons, ih, h, steps_cons, List.any_cons, Bool.or_assoc]

/-- What rules itself out, from when it has happened on, happens once at most. -/
theorem length_filter_steps_le_one {E : Step σ α ρ → Bool} (h : m.Keeps P)
    (hafter : ∀ a s, E (m.take a s) = true → P (m.step a s).2)
    (hbefore : ∀ a s, P s → E (m.take a s) = false) (acts : List α) (s : σ) :
    ((m.steps acts s).filter E).length ≤ 1 := by
  induction acts generalizing s with
  | nil => exact Nat.zero_le 1
  | cons a acts ih =>
    rw [steps_cons, List.filter_cons]
    split
    · next hE =>
      -- the first such step leaves a state that rules out all later ones
      have hrest : (m.steps acts (m.step a s).2).filter E = [] := by
        rw [List.filter_eq_nil_iff]
        intro x hx
        rw [eq_take_of_mem hx, hbefore x.act x.before (h.before (hafter a s hE) hx)]
        exact Bool.false_ne_true
      exact Nat.le_of_eq (congrArg (fun rest => (m.take a s :: rest).length) hrest)
    · exact ih _

/-- What grows by one in just the steps of some kind counts these steps. -/
theorem add_countP_steps {E : Step σ α ρ → Bool} {f : σ → Nat} (hkeeps : m.Keeps P)
    (hstep : ∀ a s, P s → f s + (E (m.take a s)).toNat = f (m.step a s).2) (acts : List α) {s : σ}
    (hs : P s) : f s + (m.steps acts s).countP E = f (m.run acts s) := by
  induction acts generalizing s with
  | nil => rfl
  | cons a acts ih =>
    have hrest := ih (hkeeps a s hs)
    have hfirst := hstep a s hs
    rw [steps_cons, List.countP_cons, run_cons, ← hrest, ← hfirst]
    cases E (m.take a s) with
    | true =>
      rw [if_pos rfl, Bool.toNat_true]
      omega
    | false =>
      rw [if_neg Bool.false_ne_true, Bool.toNat_false]
      omega

end Machine

end VideoPosters
