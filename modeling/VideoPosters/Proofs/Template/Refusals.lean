import VideoPosters.Proofs.Template.Transparency

/-!
# What the shelf refuses

A specifier under which a template is kept is never refused.  Otherwise an identifier or a
text may be refused at once; a path is refused, if at all, when its fetch has come to its
end, and whoever waits for it is told.  What is refused leaves nothing behind on the shelf,
so that the same specifier can be tried again.

## Main definitions

* `Refusal`, `Spoilt` — why a specifier is refused at once, and what a fetch brings in vain.
* `Run.Awaits` — the invariant of an order: the path it waits for, until it is gone.
* `Run.FetchesAnew` — whether a path would be fetched again.

## Main results

* `answer_eq_refused_iff` — what is refused at once where nothing is kept.
* `Run.order_eq_error_iff`, `Run.order_of_error` — what is refused at once, which changes
  nothing at all.
* `Run.poll_eq_error_iff`, `Run.shelf_poll` — what is refused later, which leaves the shelf
  as it was.
* `Run.refusal_leaves_nothing` — **what is refused, when and why, and that it can be tried
  again.**
-/

namespace VideoPosters.Template.Shelf

/-- Why a specifier is refused at once where nothing is kept under it. -/
inductive Refusal (embedded? : String → Option String) (spec : String) : Failure → Prop where
  | unknown (hspec : Specifier.classify spec = .identifier spec) (htext : embedded? spec = none) :
      Refusal embedded? spec (.templateNotFound spec)
  | embedded {text e} (hspec : Specifier.classify spec = .identifier spec)
      (htext : embedded? spec = some text) (hcompile : compile text = .error e) :
      Refusal embedded? spec (.compile spec e)
  | literal {e} (hspec : Specifier.classify spec = .literal spec)
      (hcompile : compile spec = .error e) : Refusal embedded? spec (.compile (excerpt spec) e)

/-- What the fetch of a path brings where it brings no template. -/
inductive Spoilt (path : String) : Except String String → Failure → Prop where
  | unfetched (reason : String) : Spoilt path (.error reason) (.fetch path reason)
  | malformed {text e} (hcompile : compile text = .error e) :
      Spoilt path (.ok text) (.compile path e)

section

variable {embedded? : String → Option String} {spec : String} {failure : Failure}

/-- What is refused at once is what is refused where nothing is kept. -/
theorem answer_eq_refused_iff {fetch : String → Except String String} :
    answer embedded? fetch spec = .refused failure ↔ Refusal embedded? spec failure := by
  constructor
  · intro h
    -- a path is never refused at once, and of the others only what does not compile or is not there
    rcases Specifier.classify_cases spec with hspec | hspec | hspec
    · cases htext : embedded? spec with
      | none =>
        rw [answer_of_none hspec htext] at h
        obtain rfl := Answer.refused.inj h
        exact .unknown hspec htext
      | some text =>
        rw [answer_of_some hspec htext] at h
        cases hcompile : compile text with
        | ok tokens =>
          rw [compiled_of_ok hcompile] at h
          cases h
        | error e =>
          rw [compiled_of_error hcompile] at h
          obtain rfl := Answer.refused.inj h
          exact .embedded hspec htext hcompile
    · rw [answer_of_path hspec] at h
      cases h
    · rw [answer_of_literal hspec] at h
      cases hcompile : compile spec with
      | ok tokens =>
        rw [compiled_of_ok hcompile] at h
        cases h
      | error e =>
        rw [compiled_of_error hcompile] at h
        obtain rfl := Answer.refused.inj h
        exact .literal hspec hcompile
  · intro h
    cases h with
    | unknown hspec htext => exact answer_of_none hspec htext
    | embedded hspec htext hcompile =>
      rw [answer_of_some hspec htext, compiled_of_error hcompile]
      rfl
    | literal hspec hcompile =>
      rw [answer_of_literal hspec, compiled_of_error hcompile]
      rfl

end

namespace Run

variable {r : Run} {embedded? : String → Option String} {spec : String} {failure : Failure}

theorem get?_eq_none_iff : r.shelf.entries.get? spec = none ↔ r.shelf.contains spec = false := by
  rw [contains, Option.isSome_eq_false_iff, Option.isNone_iff_eq_none]

/-! ### At once -/

/-- What there is a reason to refuse is refused for it, and nothing changes. -/
theorem order_of_refusal (hnone : r.shelf.contains spec = false)
    (h : Refusal embedded? spec failure) : r.order embedded? spec = (.error failure, r) := by
  rw [← get?_eq_none_iff] at hnone
  cases h with
  | unknown hspec htext => simp only [order, resolve, hnone, hspec, htext]
  | embedded hspec htext hcompile =>
    simp only [order, resolve, hnone, hspec, htext, compileAndKeep, compileAs, hcompile]
    rfl
  | literal hspec hcompile =>
    simp only [order, resolve, hnone, hspec, compileAs, hcompile]
    rfl

/-- **What is refused at once.** -/
theorem order_eq_error_iff : (r.order embedded? spec).1 = .error failure ↔
    r.shelf.contains spec = false ∧ Refusal embedded? spec failure := by
  constructor
  · intro h
    have hordered := ordered embedded? spec r
    generalize r.order embedded? spec = result at hordered h
    cases hordered with
    | unknown hnone hspec htext =>
      obtain rfl := Except.error.inj h
      exact ⟨get?_eq_none_iff.1 hnone, .unknown hspec htext⟩
    | embedFails hnone hspec htext hcompile =>
      obtain rfl := Except.error.inj h
      exact ⟨get?_eq_none_iff.1 hnone, .embedded hspec htext hcompile⟩
    | literalFails hnone hspec hcompile =>
      obtain rfl := Except.error.inj h
      exact ⟨get?_eq_none_iff.1 hnone, .literal hspec hcompile⟩
    | _ => cases h
  · rintro ⟨hnone, hrefusal⟩
    rw [order_of_refusal hnone hrefusal]

/-- What is refused at once changes nothing at all. -/
theorem order_of_error (h : (r.order embedded? spec).1 = .error failure) :
    (r.order embedded? spec).2 = r := by
  obtain ⟨hnone, hrefusal⟩ := order_eq_error_iff.1 h
  rw [order_of_refusal hnone hrefusal]

/-- A path that is not kept gets an order of its own. -/
theorem order_of_path (hnone : r.shelf.contains spec = false)
    (hspec : Specifier.classify spec = .path spec) : r.order embedded? spec =
      (.ok r.orders.length, { r with orders := r.orders ++ [.idle spec] }) := by
  rw [← get?_eq_none_iff] at hnone
  simp only [order, resolve, hnone, hspec]

/-- An order that is made waits for a path just if the specifier is one that is not kept. -/
theorem pathAt?_of_order {i : Nat} (h : (r.order embedded? spec).1 = .ok i) :
    i < (r.order embedded? spec).2.orders.length ∧ ∀ path,
      (r.order embedded? spec).2.pathAt? i = some path ↔
        path = spec ∧ r.shelf.contains spec = false ∧ Specifier.classify spec = .path spec := by
  -- the new order is the last one, so what it waits for can be read off
  have hmade : ∀ (r' : Run) (o : Order), r'.orders = r.orders ++ [o] →
      r.orders.length < r'.orders.length ∧ r'.pathAt? r.orders.length = o.path? := by
    intro r' o horders
    rw [pathAt?, orderAt_of_append_self horders, horders, List.length_append]
    exact ⟨Nat.lt_succ_self _, rfl⟩
  have hordered := ordered embedded? spec r
  generalize r.order embedded? spec = result at hordered h ⊢
  cases hordered with
  | @hit template hkept =>
    obtain rfl := Except.ok.inj h
    obtain ⟨hlt, hpath⟩ := hmade { r with orders := _ } (.ready template) rfl
    -- what is kept is ready at once
    refine ⟨hlt, fun path => iff_of_false (by simp [hpath]) ?_⟩
    rintro ⟨-, hnone, -⟩
    rw [contains, hkept] at hnone
    cases hnone
  | path hnone hspec =>
    obtain rfl := Except.ok.inj h
    obtain ⟨hlt, hpath⟩ := hmade { r with orders := _ } (.idle spec) rfl
    refine ⟨hlt, fun path => ?_⟩
    rw [hpath, Order.path?_idle, Option.some_inj]
    exact ⟨fun h => ⟨h.symm, get?_eq_none_iff.1 hnone, hspec⟩, fun h => h.1.symm⟩
  | @embed _ tokens _ hspec _ _ | @literal tokens _ hspec _ =>
    obtain rfl := Except.ok.inj h
    obtain ⟨hlt, hpath⟩ := hmade { r with shelf := _, orders := _ } (.ready ⟨_, tokens⟩) rfl
    -- what is compiled at once is ready, too
    refine ⟨hlt, fun path => iff_of_false (by simp [hpath]) ?_⟩
    rintro ⟨-, -, hspec'⟩
    rw [hspec] at hspec'
    cases hspec'
  | _ => cases h

/-! ### Later -/

/-- **What is refused when it has been fetched.** -/
theorem poll_eq_error_iff {i : Nat} {arrival : Option (Except String String)} :
    (r.poll i arrival).1 = .done (.error failure) ↔
      ∃ path brought, r.pathAt? i = some path ∧ arrival = some brought ∧
        Spoilt path brought failure := by
  have hpolled := polled i arrival r
  generalize r.poll i arrival = result at hpolled
  constructor
  · intro h
    cases hpolled with
    | arriveFails hpath hcompile =>
      cases h
      exact ⟨_, _, hpath, rfl, .malformed hcompile⟩
    | fetchFails hpath =>
      cases h
      exact ⟨_, _, hpath, rfl, .unfetched _⟩
    | _ => cases h
  · rintro ⟨path, brought, hpath, rfl, hspoilt⟩
    -- an order that waits for a path is neither ready nor gone, and a text that compiles is not
    -- spoilt
    cases hpolled with
    | take hready =>
      rw [pathAt?, hready] at hpath
      cases hpath
    | taken hgone =>
      rw [pathAt?, hgone] at hpath
      cases hpath
    | arrive _ hcompile =>
      cases hspoilt with
      | malformed hcompile' =>
        rw [hcompile] at hcompile'
        cases hcompile'
    | arriveFails hpath' hcompile =>
      obtain rfl := Option.some.inj (hpath'.symm.trans hpath)
      cases hspoilt with
      | malformed hcompile' => rw [Except.error.inj (hcompile.symm.trans hcompile')]
    | fetchFails hpath' =>
      obtain rfl := Option.some.inj (hpath'.symm.trans hpath)
      cases hspoilt with
      | unfetched _ => rfl

/-- Looking after an order leaves the shelf as it was unless a template has come. -/
theorem shelf_poll {i : Nat} {arrival : Option (Except String String)}
    (h : ∀ template, (r.poll i arrival).1 ≠ .done (.ok template)) :
    (r.poll i arrival).2.shelf = r.shelf := by
  have hpolled := polled i arrival r
  generalize r.poll i arrival = result at hpolled h ⊢
  cases hpolled with
  | arrive _ _ => exact absurd rfl (h _)
  | _ => rfl

/-- An order waits for what it waited for, until it is gone. -/
def Awaits (i : Nat) (path? : Option String) (r : Run) : Prop :=
  i < r.orders.length ∧ (r.orderAt i = .gone ∨ r.pathAt? i = path?)

/-- No act changes what an order waits for. -/
theorem keeps_awaits (i : Nat) (path? : Option String) : machine.Keeps (Awaits i path?) := by
  rintro a r ⟨hlt, hwaits⟩
  have heffect := orderEffect_step a r
  generalize (machine.step a r).2 = r' at heffect ⊢
  generalize horders : r'.orders = orders at heffect
  cases heffect with
  | none =>
    rw [Awaits, pathAt?, orderAt, horders]
    exact ⟨hlt, hwaits⟩
  | ready _ | idle _ _ =>
    refine ⟨by rw [horders, List.length_append]; exact Nat.lt_add_right _ hlt, ?_⟩
    rcases orderAt_of_append horders i with hi | ⟨rfl, -⟩
    · rw [pathAt?, hi]
      exact hwaits
    · exact absurd hlt (Nat.lt_irrefl _)
  | fetching hpath =>
    refine ⟨by rw [horders, List.length_set]; exact hlt, ?_⟩
    rcases orderAt_of_set horders i with hi | ⟨rfl, hi⟩
    · rw [pathAt?, hi]
      exact hwaits
    · -- the path that is being fetched is the one that was waited for
      right
      rw [pathAt?, hi, Order.path?_fetching, ← hpath]
      rcases hwaits with hgone | hpath'
      · rw [pathAt?, hgone] at hpath
        cases hpath
      · exact hpath'
  | gone j =>
    refine ⟨by rw [horders, List.length_set]; exact hlt, ?_⟩
    rcases orderAt_of_set horders i with hi | ⟨-, hi⟩
    · rw [pathAt?, hi]
      exact hwaits
    · exact .inl hi

/-- Whoever looks after an order is told of a failure just if it is still left and what was
waited for has been spoilt. -/
theorem Awaits.poll_eq_error_iff {i : Nat} {path? : Option String}
    {arrival : Option (Except String String)} (h : r.Awaits i path?) :
    (r.poll i arrival).1 = .done (.error failure) ↔ r.orderAt i ≠ .gone ∧
      ∃ path brought, path? = some path ∧ arrival = some brought ∧
        Spoilt path brought failure := by
  obtain ⟨-, hwaits⟩ := h
  rw [Run.poll_eq_error_iff]
  constructor
  · rintro ⟨path, brought, hpath, hrest⟩
    have hleft : r.orderAt i ≠ .gone := by
      intro hgone
      rw [pathAt?, hgone] at hpath
      cases hpath
    exact ⟨hleft, path, brought, (hwaits.resolve_left hleft).symm.trans hpath, hrest⟩
  · rintro ⟨hleft, path, brought, hpath, hrest⟩
    exact ⟨path, brought, (hwaits.resolve_left hleft).trans hpath, hrest⟩

/-! ### Trying again -/

/-- The path would be fetched again: whoever resolves it gets an order of its own, and
begins a fetch by looking after it. -/
def FetchesAnew (path : String) (r : Run) : Prop :=
  ∀ embedded?, (r.order embedded? path).1 = .ok r.orders.length ∧
    ∀ arrival, ((r.order embedded? path).2.poll r.orders.length arrival).2.fetched =
      path :: r.fetched

/-- A path that is not kept would be fetched again. -/
theorem fetchesAnew_of_contains {path : String} (hnone : r.shelf.contains path = false)
    (hspec : Specifier.classify path = .path path) : r.FetchesAnew path := by
  intro embedded?
  rw [order_of_path hnone hspec]
  refine ⟨rfl, fun arrival => ?_⟩
  -- the new order is the one that is looked after
  have hidle : ({ r with orders := r.orders ++ [.idle path] } : Run).orderAt r.orders.length =
      .idle path := orderAt_of_append_self rfl
  rw [orderAt] at hidle
  rw [poll, hidle]
  cases arrival <;> rfl

/-- **What is refused, when and why, and that it can be tried again.**  Whatever is kept, a
specifier is refused at once just if nothing is kept under it and it is an identifier for
which no text is embedded, or one whose text does not compile, or a text that does not
compile itself; then nothing at all has changed.  Whatever follows upon an order that is
made for it, whoever looks after the order is told of a failure just if the specifier is a
path that was not kept, and its fetch has failed or has brought a text that does not
compile.  Neither the order nor a look after it changes the shelf until a template has come,
and once a failure has been told the path would be fetched again, unless another order has
brought it meanwhile. -/
theorem refusal_leaves_nothing (embedded? : String → Option String) (spec : String) (r : Run) :
    let x := machine.take (.order embedded? spec) r
    (∀ failure, x.reply = .ordered (.error failure) ↔
      r.shelf.contains spec = false ∧ Refusal embedded? spec failure) ∧
    (∀ failure, x.reply = .ordered (.error failure) → x.after = r) ∧
    (Specifier.classify spec = .path spec →
      x.reply = .ordered (.ok r.orders.length) ∧ x.after.shelf = r.shelf) ∧
    ∀ i, x.reply = .ordered (.ok i) → ∀ later, ∀ y ∈ machine.steps later x.after,
      ∀ arrival, y.act = .poll i arrival →
        (∀ failure, y.reply = .status (.done (.error failure)) ↔
          r.shelf.contains spec = false ∧ Specifier.classify spec = .path spec ∧
            y.before.orderAt i ≠ .gone ∧
            ∃ brought, arrival = some brought ∧ Spoilt spec brought failure) ∧
        ((∀ template, y.reply ≠ .status (.done (.ok template))) →
          y.after.shelf = y.before.shelf) ∧
        ∀ failure, y.reply = .status (.done (.error failure)) →
          y.after.shelf.contains spec = false → y.after.FetchesAnew spec := by
  intro x
  have hreply : ∀ outcome, x.reply = .ordered outcome ↔ (r.order embedded? spec).1 = outcome :=
    fun outcome => ⟨Reply.ordered.inj, congrArg Reply.ordered⟩
  refine ⟨fun failure => (hreply _).trans order_eq_error_iff,
    fun failure h => order_of_error ((hreply _).1 h), fun hspec => ?_,
    fun i hi later y hy arrival hact => ?_⟩
  · rw [hreply]
    show _ ∧ (r.order embedded? spec).2.shelf = _
    -- a path that is kept is ready, any other one is fetched later; neither changes the shelf
    cases hkept : r.shelf.entries.get? spec with
    | some template =>
      simp only [order, resolve, hkept]
      exact ⟨trivial, trivial⟩
    | none =>
      rw [order_of_path (get?_eq_none_iff.1 hkept) hspec]
      exact ⟨rfl, rfl⟩
  · obtain ⟨hlt, hpath⟩ := pathAt?_of_order ((hreply _).1 hi)
    -- whatever happens before the look, the order still waits for the same path, or is gone
    have hawaits := (keeps_awaits i (x.after.pathAt? i)).before ⟨hlt, .inr rfl⟩ hy
    have hy' : y = machine.take (.poll i arrival) y.before := by
      rw [← hact]
      exact Machine.eq_take_of_mem hy
    have hstatus : ∀ status, y.reply = .status status ↔ (y.before.poll i arrival).1 = status := by
      intro status
      rw [hy']
      exact ⟨Reply.status.inj, congrArg Reply.status⟩
    have hafter : y.after = (y.before.poll i arrival).2 := by
      rw [hy']
      rfl
    have hfails : ∀ failure, y.reply = .status (.done (.error failure)) ↔
        r.shelf.contains spec = false ∧ Specifier.classify spec = .path spec ∧
          y.before.orderAt i ≠ .gone ∧
          ∃ brought, arrival = some brought ∧ Spoilt spec brought failure := by
      intro failure
      rw [hstatus, hawaits.poll_eq_error_iff]
      constructor
      · rintro ⟨hleft, path, brought, hwaits, hrest⟩
        obtain ⟨rfl, hnone, hspec⟩ := (hpath path).1 hwaits
        exact ⟨hnone, hspec, hleft, brought, hrest⟩
      · rintro ⟨hnone, hspec, hleft, brought, hrest⟩
        exact ⟨hleft, spec, brought, (hpath spec).2 ⟨rfl, hnone, hspec⟩, hrest⟩
    refine ⟨hfails, fun hnothing => ?_, fun failure hfailure hnone => ?_⟩
    · rw [hafter]
      exact shelf_poll fun template htemplate => hnothing template ((hstatus _).2 htemplate)
    · obtain ⟨-, hspec, -, -⟩ := (hfails failure).1 hfailure
      exact fetchesAnew_of_contains hnone hspec

/-- Beside a template that is kept, an identifier is refused at once and a path when its
text has come; the shelf is left as it was, and the path would be fetched again. -/
theorem refusal_leaves_nothing_malformed :
    let r := machine.run [.order (fun _ => some "x") "card"] start
    let x := machine.take (.order (fun _ => none) "/a") r
    let arrival := some (.ok "\x7b\x7b=\x7d\x7d")
    let y := machine.take (.poll 1 arrival) (machine.run [.poll 1 none] x.after)
    r.shelf.size = 1 ∧ (machine.take (.order (fun _ => none) "list") r).after = r ∧
    x.reply = .ordered (.ok 1) ∧
    y.reply = .status (.done (.error (.compile "/a" ⟨0, .emptyExpression⟩))) ∧
    y.after.shelf = r.shelf ∧ y.after.FetchesAnew "/a" := by
  intro r x arrival y
  have hbad : compile "\x7b\x7b=\x7d\x7d" = .error ⟨0, .emptyExpression⟩ := by cbv
  have hspec : Specifier.classify "/a" = .path "/a" := rfl
  have hnone : r.shelf.contains "/a" = false := by decide +kernel
  have hunknown : r.shelf.contains "list" = false := by decide +kernel
  -- an identifier that is not known
  obtain ⟨hatOnce, hunchanged, -⟩ := refusal_leaves_nothing (fun _ => none) "list" r
  have hlist := (hatOnce _).2 ⟨hunknown, .unknown rfl rfl⟩
  -- a path whose text does not compile
  obtain ⟨-, -, hpath, hlater⟩ := refusal_leaves_nothing (fun _ => none) "/a" r
  have hlength : r.orders.length = 1 := by decide +kernel
  have hreply : x.reply = .ordered (.ok 1) := (hpath hspec).1.trans (by rw [hlength])
  have hy : y ∈ machine.steps [.poll 1 none, .poll 1 arrival] x.after :=
    List.mem_cons_of_mem _ List.mem_cons_self
  obtain ⟨hfails, hleaves, hanew⟩ := hlater 1 hreply _ y hy arrival rfl
  have hleft : y.before.orderAt 1 ≠ .gone := by decide +kernel
  have hfailure := (hfails _).2 ⟨hnone, hspec, hleft, _, rfl, .malformed hbad⟩
  have hshelf : y.after.shelf = y.before.shelf := hleaves fun template htemplate => by
    rw [hfailure] at htemplate
    cases htemplate
  have hbefore : y.before.shelf = r.shelf := by decide +kernel
  have hafter : y.after.shelf = r.shelf := hshelf.trans hbefore
  refine ⟨by decide +kernel, hunchanged _ hlist, hreply, hfailure, hafter, hanew _ hfailure ?_⟩
  rw [hafter]
  exact hnone

end Run

end VideoPosters.Template.Shelf
