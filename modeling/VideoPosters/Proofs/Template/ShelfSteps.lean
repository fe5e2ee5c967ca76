import VideoPosters.Proofs.History
import VideoPosters.Proofs.Lists
import VideoPosters.Template.Shelf

/-!
# What happens in a run of the template shelf

Specifiers are resolved, orders are looked after and given up, in any order; what a fetch
brings, and when, is not laid down.  Each of these is an act of one machine; this file says
what each act does, so that no later proof has to look into it again.

## Main definitions

* `Act`, `Reply`, `Run.machine` — what can happen, and the machine it happens in.
* `Order.path?` — the path an order waits for.
* `Run.Ordered`, `Run.Polled` — what comes of resolving, and of looking after an order.
* `Run.Effect`, `Run.OrderEffect` — what an act does to the shelf, and to the orders.

## Main results

* `Run.ordered`, `Run.polled` — resolving and looking do one of these.
* `Run.effect_step`, `Run.orderEffect_step` — what each act does.
* `Run.pathAt?_step` — for what an order can wait after an act.
* `Run.fetched_step` — what can be fetched in an act.
-/

namespace VideoPosters.Template.Shelf

/-- What can happen in a run. -/
inductive Act where
  /-- A specifier is resolved; `embedded?` gives the embedded texts of the moment. -/
  | order (embedded? : String → Option String) (spec : String)
  /-- Somebody looks after an order, whose fetch may have brought something. -/
  | poll (i : Nat) (arrival : Option (Except String String))
  | drop (i : Nat)

/-- What comes of an act. -/
inductive Reply where
  | nothing
  /-- The number of a new order. -/
  | ordered (outcome : Except Failure Nat)
  | status (status : Status)

/-- The path an order waits for. -/
def Order.path? : Order → Option String
  | .idle path | .fetching path => some path
  | .ready _ | .gone => none

@[simp] theorem Order.path?_ready (template : Compiled) : (Order.ready template).path? = none := rfl

@[simp] theorem Order.path?_idle (path : String) : (Order.idle path).path? = some path := rfl

@[simp] theorem Order.path?_fetching (path : String) :
    (Order.fetching path).path? = some path := rfl

@[simp] theorem Order.path?_gone : Order.gone.path? = none := rfl

namespace Run

/-- Does an act. -/
def perform : Act → Run → Reply × Run
  | .order embedded? spec, r => (.ordered (r.order embedded? spec).1, (r.order embedded? spec).2)
  | .poll i arrival, r => (.status (r.poll i arrival).1, (r.poll i arrival).2)
  | .drop i, r => (.nothing, r.drop i)

/-- The machine of runs. -/
def machine : Machine Run Act Reply := ⟨perform⟩

theorem reaches_perform (a : Act) (r : Run) : machine.Reaches r (perform a r).2 :=
  Machine.reaches_step a r

/-- The order of a number; there is nothing to wait for where none was made. -/
def orderAt (r : Run) (i : Nat) : Order := r.orders.getD i .gone

/-- The path that the order of a number waits for. -/
def pathAt? (r : Run) (i : Nat) : Option String := (r.orderAt i).path?

/-- The fetches when the order of a number has been looked after: an idle one has begun. -/
def fetchedWith (r : Run) (i : Nat) : List String :=
  match r.orderAt i with
  | .idle path => path :: r.fetched
  | _ => r.fetched

end Run

/-- A step of a run. -/
abbrev Step := Machine.Step Run Act Reply

namespace Run

variable {r : Run}

/-! ### Resolving -/

/-- What comes of resolving a specifier. -/
inductive Ordered (embedded? : String → Option String) (spec : String) (r : Run) :
    Except Failure Nat × Run → Prop where
  /-- A template that is kept is handed out. -/
  | hit {template} (h : r.shelf.entries.get? spec = some template) :
      Ordered embedded? spec r
        (.ok r.orders.length, { r with orders := r.orders ++ [.ready template] })
  | unknown (h : r.shelf.entries.get? spec = none)
      (hspec : Specifier.classify spec = .identifier spec) (htext : embedded? spec = none) :
      Ordered embedded? spec r (.error (.templateNotFound spec), r)
  /-- An embedded text is compiled and the template is kept. -/
  | embed {text tokens} (h : r.shelf.entries.get? spec = none)
      (hspec : Specifier.classify spec = .identifier spec) (htext : embedded? spec = some text)
      (hcompile : compile text = .ok tokens) :
      Ordered embedded? spec r (.ok r.orders.length,
        { r with
          shelf := ⟨r.shelf.entries.insert spec ⟨r.shelf.next, tokens⟩, r.shelf.next + 1⟩
          orders := r.orders ++ [.ready ⟨r.shelf.next, tokens⟩] })
  | embedFails {text e} (h : r.shelf.entries.get? spec = none)
      (hspec : Specifier.classify spec = .identifier spec) (htext : embedded? spec = some text)
      (hcompile : compile text = .error e) :
      Ordered embedded? spec r (.error (.compile spec e), r)
  /-- A path is fetched later. -/
  | path (h : r.shelf.entries.get? spec = none)
      (hspec : Specifier.classify spec = .path spec) :
      Ordered embedded? spec r (.ok r.orders.length, { r with orders := r.orders ++ [.idle spec] })
  /-- The specifier itself is compiled; the template is not kept. -/
  | literal {tokens} (h : r.shelf.entries.get? spec = none)
      (hspec : Specifier.classify spec = .literal spec) (hcompile : compile spec = .ok tokens) :
      Ordered embedded? spec r (.ok r.orders.length,
        { r with
          shelf := ⟨r.shelf.entries, r.shelf.next + 1⟩
          orders := r.orders ++ [.ready ⟨r.shelf.next, tokens⟩] })
  | literalFails {e} (h : r.shelf.entries.get? spec = none)
      (hspec : Specifier.classify spec = .literal spec) (hcompile : compile spec = .error e) :
      Ordered embedded? spec r (.error (.compile (excerpt spec) e), r)

theorem ordered (embedded? : String → Option String) (spec : String) (r : Run) :
    Ordered embedded? spec r (r.order embedded? spec) := by
  rw [order, resolve]
  cases h : r.shelf.entries.get? spec with
  | some template => exact .hit h
  | none =>
    -- what is not kept goes by the kind of its specifier
    rcases Specifier.classify_cases spec with hspec | hspec | hspec
    · simp only [hspec]
      cases htext : embedded? spec with
      | none => exact .unknown h hspec htext
      | some text =>
        simp only [compileAndKeep, compileAs]
        cases hcompile : compile text with
        | ok tokens => exact .embed h hspec htext hcompile
        | error e => exact .embedFails h hspec htext hcompile
    · simp only [hspec]
      exact .path h hspec
    · simp only [hspec, compileAs]
      cases hcompile : compile spec with
      | ok tokens => exact .literal h hspec hcompile
      | error e => exact .literalFails h hspec hcompile

/-! ### Looking after an order -/

/-- What comes of looking after an order, with what its fetch has brought. -/
inductive Polled (i : Nat) (r : Run) : Option (Except String String) → Status × Run → Prop where
  /-- A template at hand is taken. -/
  | take {arrival template} (h : r.orderAt i = .ready template) :
      Polled i r arrival (.done (.ok template), { r with orders := r.orders.set i .gone })
  | taken {arrival} (h : r.orderAt i = .gone) : Polled i r arrival (.taken, r)
  /-- The fetch has brought nothing yet. -/
  | wait {path} (h : r.pathAt? i = some path) :
      Polled i r none
        (.pending, { r with fetched := r.fetchedWith i, orders := r.orders.set i (.fetching path) })
  /-- The text is compiled and the template is kept. -/
  | arrive {path text tokens} (h : r.pathAt? i = some path) (hcompile : compile text = .ok tokens) :
      Polled i r (some (.ok text)) (.done (.ok ⟨r.shelf.next, tokens⟩),
        { r with
          shelf := ⟨r.shelf.entries.insert path ⟨r.shelf.next, tokens⟩, r.shelf.next + 1⟩
          fetched := r.fetchedWith i
          orders := r.orders.set i .gone })
  | arriveFails {path text e} (h : r.pathAt? i = some path) (hcompile : compile text = .error e) :
      Polled i r (some (.ok text)) (.done (.error (.compile path e)),
        { r with fetched := r.fetchedWith i, orders := r.orders.set i .gone })
  | fetchFails {path reason} (h : r.pathAt? i = some path) :
      Polled i r (some (.error reason)) (.done (.error (.fetch path reason)),
        { r with fetched := r.fetchedWith i, orders := r.orders.set i .gone })

/-- What a fetch that has begun brings is dealt with. -/
theorem polled_arrive {i : Nat} {path : String} (h : r.pathAt? i = some path)
    (arrival : Option (Except String String)) :
    Polled i r arrival ({ r with fetched := r.fetchedWith i }.arrive i path arrival) := by
  cases arrival with
  | none => exact .wait h
  | some outcome =>
    cases outcome with
    | error reason => exact .fetchFails h
    | ok text =>
      simp only [arrive, receive, compileAndKeep, compileAs]
      cases hcompile : compile text with
      | ok tokens => exact .arrive h hcompile
      | error e => exact .arriveFails h hcompile

theorem polled (i : Nat) (arrival : Option (Except String String)) (r : Run) :
    Polled i r arrival (r.poll i arrival) := by
  rw [poll]
  cases h : r.orders.getD i .gone with
  | ready template => exact .take h
  | gone => exact .taken h
  | idle path =>
    have hpath : r.pathAt? i = some path := congrArg Order.path? h
    -- the first look is what begins the fetch
    have hfetched : r.fetchedWith i = path :: r.fetched := by rw [fetchedWith, orderAt, h]
    have hpolled := polled_arrive hpath arrival
    rw [hfetched] at hpolled
    exact hpolled
  | fetching path =>
    have hpath : r.pathAt? i = some path := congrArg Order.path? h
    have hfetched : r.fetchedWith i = r.fetched := by rw [fetchedWith, orderAt, h]
    have hpolled := polled_arrive hpath arrival
    rw [hfetched] at hpolled
    exact hpolled

/-! ### What an act does -/

/-- What an act does to the shelf. -/
inductive Effect (r : Run) : Act → Shelf → Prop where
  | none {a n} (h : r.shelf.next ≤ n) : Effect r a ⟨r.shelf.entries, n⟩
  | embed {embedded? spec text tokens} (h : r.shelf.entries.get? spec = Option.none)
      (hspec : Specifier.classify spec = .identifier spec) (htext : embedded? spec = some text)
      (hcompile : compile text = .ok tokens) :
      Effect r (.order embedded? spec)
        ⟨r.shelf.entries.insert spec ⟨r.shelf.next, tokens⟩, r.shelf.next + 1⟩
  | arrive {i path text tokens} (h : r.pathAt? i = some path)
      (hcompile : compile text = .ok tokens) :
      Effect r (.poll i (some (.ok text)))
        ⟨r.shelf.entries.insert path ⟨r.shelf.next, tokens⟩, r.shelf.next + 1⟩

/-- Every act does one of these to the shelf. -/
theorem effect_step (a : Act) (r : Run) : r.Effect a (machine.step a r).2.shelf := by
  cases a with
  | order embedded? spec =>
    show r.Effect _ (r.order embedded? spec).2.shelf
    have hordered := ordered embedded? spec r
    generalize r.order embedded? spec = result at hordered ⊢
    cases hordered with
    | embed h hspec htext hcompile => exact .embed h hspec htext hcompile
    | literal _ _ _ => exact .none (Nat.le_succ _)
    | _ => exact .none (Nat.le_refl _)
  | poll i arrival =>
    show r.Effect _ (r.poll i arrival).2.shelf
    have hpolled := polled i arrival r
    generalize r.poll i arrival = result at hpolled ⊢
    cases hpolled with
    | arrive h hcompile => exact .arrive h hcompile
    | _ => exact .none (Nat.le_refl _)
  | drop i => exact .none (Nat.le_refl _)

/-- What an act does to the orders. -/
inductive OrderEffect (r : Run) : Act → List Order → Prop where
  | none {a} : OrderEffect r a r.orders
  | ready {embedded? spec} (template : Compiled) :
      OrderEffect r (.order embedded? spec) (r.orders ++ [.ready template])
  | idle {embedded? spec} (h : r.shelf.entries.get? spec = Option.none)
      (hspec : Specifier.classify spec = .path spec) :
      OrderEffect r (.order embedded? spec) (r.orders ++ [.idle spec])
  | fetching {i path} (h : r.pathAt? i = some path) :
      OrderEffect r (.poll i Option.none) (r.orders.set i (.fetching path))
  | gone {a} (i : Nat) : OrderEffect r a (r.orders.set i .gone)

/-- Every act does one of these to the orders. -/
theorem orderEffect_step (a : Act) (r : Run) : r.OrderEffect a (machine.step a r).2.orders := by
  cases a with
  | order embedded? spec =>
    show r.OrderEffect _ (r.order embedded? spec).2.orders
    have hordered := ordered embedded? spec r
    generalize r.order embedded? spec = result at hordered ⊢
    cases hordered with
    | hit _ => exact .ready _
    | embed _ _ _ _ => exact .ready _
    | literal _ _ _ => exact .ready _
    | path h hspec => exact .idle h hspec
    | _ => exact .none
  | poll i arrival =>
    show r.OrderEffect _ (r.poll i arrival).2.orders
    have hpolled := polled i arrival r
    generalize r.poll i arrival = result at hpolled ⊢
    cases hpolled with
    | taken _ => exact .none
    | wait h => exact .fetching h
    | _ => exact .gone i
  | drop i => exact .gone i

/-! ### Orders -/

variable {r' : Run}

theorem orderAt_of_append {o : Order} (h : r'.orders = r.orders ++ [o]) (j : Nat) :
    r'.orderAt j = r.orderAt j ∨ j = r.orders.length ∧ r'.orderAt j = o := by
  rw [orderAt, orderAt, h, List.getD_eq_getElem?_getD, List.getD_eq_getElem?_getD]
  -- the number is that of an old order, of the new one or of none
  rcases Nat.lt_trichotomy j r.orders.length with hlt | rfl | hgt
  · rw [List.getElem?_append_left hlt]
    exact .inl rfl
  · rw [List.getElem?_concat_length]
    exact .inr ⟨rfl, rfl⟩
  · have hnone : (r.orders ++ [o])[j]? = none := by
      rw [List.getElem?_eq_none_iff, List.length_append]
      exact hgt
    rw [hnone, List.getElem?_eq_none (Nat.le_of_lt hgt)]
    exact .inl rfl

theorem orderAt_of_append_self {o : Order} (h : r'.orders = r.orders ++ [o]) :
    r'.orderAt r.orders.length = o := by
  rw [orderAt, h, getD_concat]

theorem orderAt_of_set {i : Nat} {o : Order} (h : r'.orders = r.orders.set i o) (j : Nat) :
    r'.orderAt j = r.orderAt j ∨ j = i ∧ r'.orderAt j = o := by
  rw [orderAt, orderAt, h, List.getD_eq_getElem?_getD, List.getD_eq_getElem?_getD,
    List.getElem?_set]
  split
  · next hij =>
    subst hij
    split
    · exact .inr ⟨rfl, rfl⟩
    · next hlt =>
      rw [List.getElem?_eq_none (Nat.le_of_not_lt hlt)]
      exact .inl rfl
  · exact .inl rfl

/-- What an order waits for it has waited for before, or it was just made: for a path that
is not kept. -/
theorem pathAt?_step {a : Act} {r : Run} {j : Nat} {path : String}
    (h : (machine.step a r).2.pathAt? j = some path) :
    r.pathAt? j = some path ∨
      (r.shelf.entries.get? path = none ∧ Specifier.classify path = .path path ∧
        j = r.orders.length ∧ ∃ embedded?, a = .order embedded? path) := by
  have heffect := orderEffect_step a r
  rw [pathAt?] at h ⊢
  -- an order is the one it was, or it is the one that the act made or set
  generalize hr' : (machine.step a r).2 = r' at heffect h
  generalize horders : r'.orders = orders at heffect
  cases heffect with
  | none =>
    rw [orderAt, horders] at h
    exact .inl h
  | ready template =>
    rcases orderAt_of_append horders j with hj | ⟨-, hj⟩
    · exact .inl (hj ▸ h)
    · rw [hj] at h
      cases h
  | idle hnone hspec =>
    rcases orderAt_of_append horders j with hj | ⟨hlength, hj⟩
    · exact .inl (hj ▸ h)
    · rw [hj] at h
      cases h
      exact .inr ⟨hnone, hspec, hlength, _, rfl⟩
  | fetching hpath =>
    rcases orderAt_of_set horders j with hj | ⟨rfl, hj⟩
    · exact .inl (hj ▸ h)
    · rw [hj] at h
      cases h
      exact .inl hpath
  | gone i =>
    rcases orderAt_of_set horders j with hj | ⟨-, hj⟩
    · exact .inl (hj ▸ h)
    · rw [hj] at h
      cases h

/-! ### Fetches -/

/-- The fetch of an order has begun, or there never was one. -/
def IsBegun (i : Nat) (r : Run) : Prop := i < r.orders.length ∧ ∀ path, r.orderAt i ≠ .idle path

theorem IsBegun.of_append {i : Nat} {o : Order} (h : r.IsBegun i)
    (horders : r'.orders = r.orders ++ [o]) : r'.IsBegun i := by
  obtain ⟨hlt, hidle⟩ := h
  refine ⟨by rw [horders, List.length_append]; exact Nat.lt_add_right _ hlt, fun path => ?_⟩
  rcases orderAt_of_append horders i with hi | ⟨rfl, -⟩
  · rw [hi]
    exact hidle path
  · exact absurd hlt (Nat.lt_irrefl _)

theorem IsBegun.of_set {i j : Nat} {o : Order} (h : r.IsBegun i) (ho : ∀ path, o ≠ .idle path)
    (horders : r'.orders = r.orders.set j o) : r'.IsBegun i := by
  obtain ⟨hlt, hidle⟩ := h
  refine ⟨by rw [horders, List.length_set]; exact hlt, fun path => ?_⟩
  rcases orderAt_of_set horders i with hi | ⟨-, hi⟩
  · rw [hi]
    exact hidle path
  · rw [hi]
    exact ho path

theorem isBegun_of_set_self {i : Nat} {o : Order} (hlt : i < r.orders.length)
    (ho : ∀ path, o ≠ .idle path) (horders : r'.orders = r.orders.set i o) : r'.IsBegun i := by
  refine ⟨by rw [horders, List.length_set]; exact hlt, fun path => ?_⟩
  rw [orderAt, horders, List.getD_eq_getElem?_getD, List.getElem?_set_self hlt]
  exact ho path

/-- A fetch that has begun has begun for good. -/
theorem keeps_isBegun (i : Nat) : machine.Keeps (IsBegun i) := by
  intro a r h
  have heffect := orderEffect_step a r
  generalize (machine.step a r).2 = r' at heffect ⊢
  generalize horders : r'.orders = orders at heffect
  cases heffect with
  | none =>
    rw [IsBegun, orderAt, horders]
    exact h
  | ready template => exact h.of_append horders
  | idle _ _ => exact h.of_append horders
  | fetching _ => exact h.of_set (fun _ => Order.noConfusion) horders
  | gone j => exact h.of_set (fun _ => Order.noConfusion) horders

/-- Looking after an order begins its fetch, if it has one. -/
theorem isBegun_poll {i : Nat} {path : String} (h : r.orderAt i = .idle path)
    (arrival : Option (Except String String)) : (r.poll i arrival).2.IsBegun i := by
  have hlt : i < r.orders.length := by
    -- an order that was not made could not be idle
    refine Nat.lt_of_not_le fun hle => ?_
    rw [orderAt, List.getD_eq_getElem?_getD, List.getElem?_eq_none hle] at h
    cases h
  have hpolled := polled i arrival r
  generalize r.poll i arrival = result at hpolled ⊢
  cases hpolled with
  | taken hgone =>
    rw [h] at hgone
    cases hgone
  | _ => exact isBegun_of_set_self hlt (fun _ => Order.noConfusion) rfl

/-- An act fetches nothing, or it is a look after an order whose fetch it begins. -/
theorem fetched_step (a : Act) (r : Run) :
    (machine.step a r).2.fetched = r.fetched ∨
      ∃ i arrival path, a = .poll i arrival ∧ r.orderAt i = .idle path ∧
        (machine.step a r).2.fetched = path :: r.fetched := by
  cases a with
  | order embedded? spec =>
    left
    show (r.order embedded? spec).2.fetched = _
    have hordered := ordered embedded? spec r
    generalize r.order embedded? spec = result at hordered ⊢
    cases hordered <;> rfl
  | poll i arrival =>
    show (r.poll i arrival).2.fetched = _ ∨ ∃ _ _ _, _ ∧ _ ∧ (r.poll i arrival).2.fetched = _
    -- a look notes the fetch if the order was idle
    have hwith : r.fetchedWith i = r.fetched ∨
        ∃ path, r.orderAt i = .idle path ∧ r.fetchedWith i = path :: r.fetched := by
      rw [fetchedWith]
      cases h : r.orderAt i with
      | idle path => exact .inr ⟨path, rfl, rfl⟩
      | _ => exact .inl rfl
    have hpolled := polled i arrival r
    generalize r.poll i arrival = result at hpolled ⊢
    have hnew : result.2.fetched = r.fetched ∨ result.2.fetched = r.fetchedWith i := by
      cases hpolled with
      | take _ => exact .inl rfl
      | taken _ => exact .inl rfl
      | _ => exact .inr rfl
    rcases hnew with hsame | hnew
    · exact .inl hsame
    · rw [hnew]
      rcases hwith with hsame | ⟨path, hidle, hbegun⟩
      · exact .inl hsame
      · exact .inr ⟨i, arrival, path, rfl, hidle, hbegun⟩
  | drop i => exact .inl rfl

end Run

end VideoPosters.Template.Shelf
