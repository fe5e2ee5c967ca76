import VideoPosters.Proofs.Template.Keeping

/-!
# Keeping templates changes no answer

Suppose that it is laid down once and for all which texts are embedded and what each fetch
brings.  Then a specifier stands for one template, or for one failure, and that can be said
without a shelf.  The shelf gives just this answer, whatever else is resolved, looked after
and given up before and meanwhile: what it keeps is never anything but the answer for its
key, so that it makes no difference whether a specifier is found on the shelf, or how many
fetches of one path overlap and which of them ends last.

## Main definitions

* `Answer`, `answer` — what a specifier comes to where nothing is kept.
* `Call`, `served` — what can happen where the texts are laid down, and the machine it
  happens in.
* `Run.IsFaithful` — the invariant of the shelf: what is kept is the answer for its key.
* `Run.Owes` — the invariant of an order: what it comes to, if it has not come to it.

## Main results

* `exists_calls` — every run in which the texts are laid down is a run of calls.
* `Run.order_eq_answer` — a faithful shelf refuses just what is refused without it, and
  makes an order that comes to the answer otherwise.
* `Run.Owes.tokens_of_mem_steps`, `Run.dropped_or_delivers` — whatever else is done, an order
  comes to what it owes, and comes to it unless it is given up.
* `Run.resolve_eq_answer` — **each specifier is answered as if nothing were kept.**
-/

namespace VideoPosters.Template.Shelf

/-! ### Answers without a shelf -/

/-- What comes of a specifier. -/
inductive Answer where
  /-- It is refused at once. -/
  | refused (failure : Failure)
  /-- It is accepted, and whoever waits for it is given this. -/
  | delivers (outcome : Except Failure (List Token))

/-- A text that is at hand is refused at once if it does not compile. -/
def Answer.ofNow : Except Failure (List Token) → Answer
  | .ok tokens => .delivers (.ok tokens)
  | .error failure => .refused failure

/-- The tokens of a text; `name` names it where it does not compile. -/
def compiled (name text : String) : Except Failure (List Token) :=
  (compile text).mapError (.compile name)

/-- What the fetch of a path comes to. -/
def fetchOutcome (fetch : String → Except String String) (path : String) :
    Except Failure (List Token) :=
  match fetch path with
  | .ok text => compiled path text
  | .error reason => .error (.fetch path reason)

/-- What a specifier comes to where nothing is kept. -/
def answer (embedded? : String → Option String) (fetch : String → Except String String)
    (spec : String) : Answer :=
  match Specifier.classify spec with
  | .identifier id =>
    match embedded? id with
    | some text => .ofNow (compiled id text)
    | none => .refused (.templateNotFound id)
  | .path path => .delivers (fetchOutcome fetch path)
  | .literal text => .ofNow (compiled (excerpt text) text)

section

variable {embedded? : String → Option String} {fetch : String → Except String String}
  {spec text : String}

theorem answer_of_some (hspec : Specifier.classify spec = .identifier spec)
    (htext : embedded? spec = some text) :
    answer embedded? fetch spec = .ofNow (compiled spec text) := by
  rw [answer, hspec]
  simp only [htext]

theorem answer_of_none (hspec : Specifier.classify spec = .identifier spec)
    (htext : embedded? spec = none) :
    answer embedded? fetch spec = .refused (.templateNotFound spec) := by
  rw [answer, hspec]
  simp only [htext]

theorem answer_of_path (hspec : Specifier.classify spec = .path spec) :
    answer embedded? fetch spec = .delivers (fetchOutcome fetch spec) := by
  rw [answer, hspec]

theorem answer_of_literal (hspec : Specifier.classify spec = .literal spec) :
    answer embedded? fetch spec = .ofNow (compiled (excerpt spec) spec) := by
  rw [answer, hspec]

end

theorem compiled_of_ok {name text : String} {tokens : List Token}
    (h : compile text = .ok tokens) : compiled name text = .ok tokens := by rw [compiled, h]; rfl

theorem compiled_of_error {name text : String} {e : CompileError} (h : compile text = .error e) :
    compiled name text = .error (.compile name e) := by rw [compiled, h]; rfl

/-- What an order comes to. -/
def Order.outcome? (fetch : String → Except String String) :
    Order → Option (Except Failure (List Token))
  | .ready template => some (.ok template.tokens)
  | .idle path | .fetching path => some (fetchOutcome fetch path)
  | .gone => none

/-- An order that waits for a path comes to what the fetch of the path comes to. -/
theorem Order.outcome?_of_path? {fetch : String → Except String String} {o : Order}
    {path : String} (h : o.path? = some path) :
    o.outcome? fetch = some (fetchOutcome fetch path) := by
  cases o with
  | idle path' | fetching path' =>
    cases h
    rfl
  | ready | gone => cases h

/-! ### Runs with texts that are laid down -/

/-- What can happen where it is laid down which texts are embedded and what the fetches
bring. -/
inductive Call where
  | order (spec : String)
  /-- Somebody looks after an order, whose fetch may have come to its end. -/
  | poll (i : Nat) (ended : Bool)
  | drop (i : Nat)

section

variable (embedded? : String → Option String) (fetch : String → Except String String)

/-- What a call does in a run. -/
def Call.act (r : Run) : Call → Act
  | .order spec => .order embedded? spec
  | .poll i ended => .poll i (if ended then (r.pathAt? i).map fetch else none)
  | .drop i => .drop i

/-- The machine of runs with texts that are laid down. -/
def served : Machine Run Call Reply :=
  ⟨fun c r => Run.machine.step (c.act embedded? fetch r) r⟩

end

variable {embedded? : String → Option String} {fetch : String → Except String String}
  {r : Run} {c : Call}

/-- What no act undoes no call undoes. -/
theorem keeps_served {P : Run → Prop} (h : Run.machine.Keeps P) :
    (served embedded? fetch).Keeps P := fun _ r => h _ r

/-- Specifiers are resolved with the embedded texts that are laid down. -/
theorem Call.embedded?_of_act {embedded?' : String → Option String} {spec : String}
    (h : c.act embedded? fetch r = .order embedded?' spec) : embedded?' = embedded? := by
  cases c <;> cases h
  rfl

/-- A fetch brings what is laid down. -/
theorem Call.fetch_of_act {i : Nat} {arrival : Except String String} {path : String}
    (h : c.act embedded? fetch r = .poll i (some arrival)) (hpath : r.pathAt? i = some path) :
    fetch path = arrival := by
  cases c with
  | poll j ended =>
    obtain ⟨rfl, harrival⟩ := Act.poll.inj h
    cases ended with
    | true =>
      rw [if_pos rfl, hpath] at harrival
      exact Option.some.inj harrival
    | false => cases harrival
  | order | drop => cases h

/-! ### No run is left out -/

/-- A step that goes by what is laid down. -/
structure IsLaidDown (embedded? : String → Option String)
    (fetch : String → Except String String) (x : Step) : Prop where
  embedded : ∀ embedded?' spec, x.act = .order embedded?' spec → embedded?' = embedded?
  fetched : ∀ i path arrival, x.before.pathAt? i = some path →
    x.act = .poll i (some arrival) → fetch path = arrival

/-- What arrives makes no difference to an order that waits for nothing. -/
theorem Run.poll_of_pathAt?_eq_none {i : Nat} (h : r.pathAt? i = none)
    (arrival : Option (Except String String)) : r.poll i arrival = r.poll i none := by
  rw [poll, poll]
  cases horder : r.orders.getD i .gone with
  | ready | gone => rfl
  | idle path | fetching path =>
    rw [pathAt?, orderAt, horder] at h
    cases h

/-- A step that goes by what is laid down is that of a call. -/
theorem exists_call {a : Act} (h : IsLaidDown embedded? fetch (Run.machine.take a r)) :
    ∃ c, (served embedded? fetch).step c r = Run.machine.step a r := by
  cases a with
  | order embedded?' spec =>
    obtain rfl := h.embedded embedded?' spec rfl
    exact ⟨.order spec, rfl⟩
  | poll i arrival =>
    cases arrival with
    | none => exact ⟨.poll i false, rfl⟩
    | some arrival =>
      refine ⟨.poll i true, ?_⟩
      show Run.perform (.poll i ((r.pathAt? i).map fetch)) r = Run.perform (.poll i _) r
      -- what arrives is what is laid down, or nothing waits for it
      cases hpath : r.pathAt? i with
      | none => rw [Run.perform, Run.perform, Run.poll_of_pathAt?_eq_none hpath (some arrival),
          Option.map_none]
      | some path => rw [Option.map_some, h.fetched i path arrival hpath rfl]
  | drop i => exact ⟨.drop i, rfl⟩

/-- Every run that goes by what is laid down is a run of calls, with the same replies. -/
theorem exists_calls {acts : List Act} {r : Run}
    (h : ∀ x ∈ Run.machine.steps acts r, IsLaidDown embedded? fetch x) :
    ∃ calls, (served embedded? fetch).run calls r = Run.machine.run acts r ∧
      ((served embedded? fetch).steps calls r).map (·.reply) =
        (Run.machine.steps acts r).map (·.reply) := by
  induction acts generalizing r with
  | nil => exact ⟨[], rfl, rfl⟩
  | cons a acts ih =>
    obtain ⟨c, hc⟩ := exists_call (h _ List.mem_cons_self)
    obtain ⟨calls, hrun, hreplies⟩ := ih fun x hx => h x (List.mem_cons_of_mem _ hx)
    refine ⟨c :: calls, ?_, ?_⟩
    · rw [Machine.run_cons, Machine.run_cons, hc, hrun]
    · rw [Machine.steps_cons, Machine.steps_cons, List.map_cons, List.map_cons, hc, hreplies,
        Machine.take, Machine.take, hc]

namespace Run

/-! ### What is kept -/

/-- What is kept is the answer for its key, and orders wait for paths only. -/
structure IsFaithful (embedded? : String → Option String)
    (fetch : String → Except String String) (r : Run) : Prop where
  waits : r.WaitsForPaths
  kept : ∀ key template, r.shelf.entries.get? key = some template →
    answer embedded? fetch key = .delivers (.ok template.tokens)

theorem isFaithful_start : start.IsFaithful embedded? fetch :=
  ⟨waitsForPaths_start, fun _ _ h => by cases h⟩

/-- The answer for a key can be kept. -/
theorem IsFaithful.insert (h : r.IsFaithful embedded? fetch) {spec : String} {new : Compiled}
    (hspec : answer embedded? fetch spec = .delivers (.ok new.tokens)) {key : String}
    {template : Compiled} (hkey : (r.shelf.entries.insert spec new).get? key = some template) :
    answer embedded? fetch key = .delivers (.ok template.tokens) := by
  by_cases hsame : key = spec
  · subst hsame
    rw [Entries.get?_insert_self] at hkey
    rw [hspec, Option.some.inj hkey]
  · rw [Entries.get?_insert_of_ne hsame] at hkey
    exact h.kept key template hkey

/-- Only answers are ever kept. -/
theorem keeps_isFaithful :
    (served embedded? fetch).Keeps (IsFaithful embedded? fetch) := by
  intro c r h
  refine ⟨keeps_served keeps_waitsForPaths c r h.waits, fun key template hkey => ?_⟩
  replace hkey : (machine.step (c.act embedded? fetch r) r).2.shelf.entries.get? key =
    some template := hkey
  have heffect := effect_step (c.act embedded? fetch r) r
  generalize hact : c.act embedded? fetch r = a at heffect hkey
  generalize (machine.step a r).2.shelf = shelf at heffect hkey
  cases heffect with
  | none _ => exact h.kept key template hkey
  -- an embedded template is the answer for its own name
  | embed _ hspec htext hcompile =>
    obtain rfl := Call.embedded?_of_act hact
    refine h.insert ?_ hkey
    rw [answer_of_some hspec htext, compiled_of_ok hcompile]
    rfl
  -- a fetched template is the answer for the path that was waited for
  | arrive hpath hcompile =>
    refine h.insert ?_ hkey
    rw [answer_of_path (h.waits _ _ hpath), fetchOutcome, Call.fetch_of_act hact hpath]
    exact congrArg Answer.delivers (compiled_of_ok hcompile)

/-! ### What an order comes to -/

/-- An order comes to this, unless it has been delivered or given up. -/
def Owes (fetch : String → Except String String) (i : Nat)
    (outcome : Except Failure (List Token)) (r : Run) : Prop :=
  i < r.orders.length ∧ ∀ o, (r.orderAt i).outcome? fetch = some o → o = outcome

/-- What an order that is left comes to it owes. -/
theorem owes_of_outcome? {i : Nat} {outcome : Except Failure (List Token)}
    (h : (r.orderAt i).outcome? fetch = some outcome) :
    r.Owes fetch i outcome ∧ r.orderAt i ≠ .gone := by
  have hleft : r.orderAt i ≠ .gone := fun hgone => by
    rw [hgone] at h
    cases h
  refine ⟨⟨Nat.lt_of_not_le fun hle => hleft ?_, fun o ho => ?_⟩, hleft⟩
  · rw [orderAt, List.getD_eq_getElem?_getD, List.getElem?_eq_none hle]
    rfl
  · exact Option.some.inj (ho.symm.trans h)

/-- What an order comes to is not changed by anything. -/
theorem keeps_owes (i : Nat) (outcome : Except Failure (List Token)) :
    machine.Keeps (Owes fetch i outcome) := by
  rintro a r ⟨hlt, howed⟩
  have heffect := orderEffect_step a r
  generalize (machine.step a r).2 = r' at heffect ⊢
  generalize horders : r'.orders = orders at heffect
  cases heffect with
  | none =>
    rw [Owes, orderAt, horders]
    exact ⟨hlt, howed⟩
  | ready _ | idle _ _ =>
    refine ⟨by rw [horders, List.length_append]; exact Nat.lt_add_right _ hlt, ?_⟩
    rcases orderAt_of_append horders i with hi | ⟨rfl, -⟩
    · rw [hi]
      exact howed
    · exact absurd hlt (Nat.lt_irrefl _)
  | fetching hpath =>
    refine ⟨by rw [horders, List.length_set]; exact hlt, ?_⟩
    rcases orderAt_of_set horders i with hi | ⟨rfl, hi⟩
    · rw [hi]
      exact howed
    · rw [hi]
      -- the path is the one that was waited for before
      rw [Order.outcome?_of_path? hpath] at howed
      exact howed
  | gone j =>
    refine ⟨by rw [horders, List.length_set]; exact hlt, ?_⟩
    rcases orderAt_of_set horders i with hi | ⟨-, hi⟩
    · rw [hi]
      exact howed
    · rw [hi]
      exact fun o ho => by cases ho

/-- A faithful shelf refuses just what is refused without it, and makes an order that comes
to the answer otherwise. -/
theorem order_eq_answer (h : r.IsFaithful embedded? fetch) (spec : String) :
    (∃ failure, answer embedded? fetch spec = .refused failure ∧
      (r.order embedded? spec).1 = .error failure) ∨
    ∃ outcome, answer embedded? fetch spec = .delivers outcome ∧
      (r.order embedded? spec).1 = .ok r.orders.length ∧
      ((r.order embedded? spec).2.orderAt r.orders.length).outcome? fetch = some outcome := by
  have hordered := ordered embedded? spec r
  generalize r.order embedded? spec = result at hordered ⊢
  cases hordered with
  -- what is kept is the answer, by the invariant
  | hit hkept => exact .inr ⟨_, h.kept _ _ hkept, rfl, by rw [orderAt, getD_concat]; rfl⟩
  | unknown _ hspec htext => exact .inl ⟨_, answer_of_none hspec htext, rfl⟩
  | embed _ hspec htext hcompile =>
    refine .inr ⟨_, ?_, rfl, by rw [orderAt, getD_concat]; rfl⟩
    rw [answer_of_some hspec htext, compiled_of_ok hcompile]
    rfl
  | embedFails _ hspec htext hcompile =>
    refine .inl ⟨_, ?_, rfl⟩
    rw [answer_of_some hspec htext, compiled_of_error hcompile]
    rfl
  | path _ hspec =>
    exact .inr ⟨_, answer_of_path hspec, rfl, by rw [orderAt, getD_concat]; rfl⟩
  | literal _ hspec hcompile =>
    refine .inr ⟨_, ?_, rfl, by rw [orderAt, getD_concat]; rfl⟩
    rw [answer_of_literal hspec, compiled_of_ok hcompile]
    rfl
  | literalFails _ hspec hcompile =>
    refine .inl ⟨_, ?_, rfl⟩
    rw [answer_of_literal hspec, compiled_of_error hcompile]
    rfl

/-- An order that is done has come to what it was to come to. -/
theorem tokens_of_done {i : Nat} {arrival : Option (Except String String)}
    (harrival : ∀ path, r.pathAt? i = some path → ∀ a, arrival = some a → fetch path = a)
    {result : Except Failure Compiled} (h : (r.poll i arrival).1 = .done result) :
    (r.orderAt i).outcome? fetch = some (result.map Compiled.tokens) := by
  have hpolled := polled i arrival r
  generalize r.poll i arrival = looked at hpolled h
  cases hpolled with
  | take hready =>
    cases h
    rw [hready]
    rfl
  | taken _ | wait _ => cases h
  | arrive hpath hcompile =>
    cases h
    rw [Order.outcome?_of_path? hpath, fetchOutcome, harrival _ hpath _ rfl]
    exact congrArg some (compiled_of_ok hcompile)
  | arriveFails hpath hcompile =>
    cases h
    rw [Order.outcome?_of_path? hpath, fetchOutcome, harrival _ hpath _ rfl]
    exact congrArg some (compiled_of_error hcompile)
  | fetchFails hpath =>
    cases h
    rw [Order.outcome?_of_path? hpath, fetchOutcome, harrival _ hpath _ rfl]
    rfl

/-- An order that is left is done as soon as its fetch has come to its end. -/
theorem exists_done (fetch : String → Except String String) {i : Nat}
    (h : r.orderAt i ≠ .gone) :
    ∃ result, (r.poll i ((r.pathAt? i).map fetch)).1 = .done result := by
  have hpolled := polled i ((r.pathAt? i).map fetch) r
  generalize harrival : (r.pathAt? i).map fetch = arrival at hpolled
  generalize r.poll i arrival = looked at hpolled ⊢
  cases hpolled with
  | taken hgone => exact absurd hgone h
  -- the fetch has come to its end, so there is nothing to wait for
  | wait hpath =>
    rw [hpath] at harrival
    cases harrival
  | _ => exact ⟨_, rfl⟩

/-- An order is gone only when it is given up or done. -/
theorem gone_step {a : Act} {r : Run} {i : Nat} (hbefore : r.orderAt i ≠ .gone)
    (hafter : (machine.step a r).2.orderAt i = .gone) :
    a = .drop i ∨ ∃ arrival result, a = .poll i arrival ∧
      (machine.step a r).1 = .status (.done result) := by
  cases a with
  | order embedded? spec =>
    replace hafter : (r.order embedded? spec).2.orderAt i = .gone := hafter
    have hordered := ordered embedded? spec r
    generalize r.order embedded? spec = result at hordered hafter
    -- no order that is made is gone
    have happend : ∀ (r' : Run) (o : Order), r'.orders = r.orders ++ [o] → o ≠ .gone →
        r'.orderAt i ≠ .gone := by
      intro r' o horders ho
      rcases orderAt_of_append horders i with hi | ⟨-, hi⟩
      · rwa [hi]
      · rwa [hi]
    cases hordered with
    | hit _ | embed _ _ _ _ | path _ _ | literal _ _ _ =>
      exact absurd hafter (happend _ _ rfl Order.noConfusion)
    | _ => exact absurd hafter hbefore
  | poll j arrival =>
    replace hafter : (r.poll j arrival).2.orderAt i = .gone := hafter
    show _ ∨ ∃ _ _, _ ∧ Reply.status (r.poll j arrival).1 = _
    have hpolled := polled j arrival r
    generalize r.poll j arrival = looked at hpolled hafter ⊢
    -- the look changes this order only
    have hset : ∀ (r' : Run) (o : Order), r'.orders = r.orders.set j o →
        r'.orderAt i = .gone → i = j ∧ o = .gone := by
      intro r' o horders hgone
      rcases orderAt_of_set horders i with hi | ⟨hij, hi⟩
      · exact absurd (hi.symm.trans hgone) hbefore
      · exact ⟨hij, hi.symm.trans hgone⟩
    cases hpolled with
    | taken _ => exact absurd hafter hbefore
    | wait _ => cases (hset _ _ rfl hafter).2
    | _ =>
      obtain ⟨rfl, -⟩ := hset _ _ rfl hafter
      exact .inr ⟨_, _, rfl, rfl⟩
  | drop j =>
    rcases orderAt_of_set (rfl : (r.drop j).orders = _) i with hi | ⟨rfl, -⟩
    · exact absurd (hi.symm.trans hafter) hbefore
    · exact .inl rfl

/-! ### Whole runs -/

/-- A step is a look after an order that is done with this. -/
def Delivers (x : Machine.Step Run Call Reply) (i : Nat) (result : Except Failure Compiled) :
    Prop :=
  ∃ ended, x.act = .poll i ended ∧ x.reply = .status (.done result)

/-- What is delivered is what the order was to come to. -/
theorem outcome?_of_delivers {i : Nat} {result : Except Failure Compiled}
    (h : Delivers ((served embedded? fetch).take c r) i result) :
    (r.orderAt i).outcome? fetch = some (result.map Compiled.tokens) := by
  obtain ⟨ended, hact, hreply⟩ := h
  obtain rfl : c = .poll i ended := hact
  refine tokens_of_done (fun path hpath a ha => ?_) (Reply.status.inj hreply)
  have hact : (Call.poll i ended).act embedded? fetch r = .poll i (some a) :=
    congrArg (Act.poll i) ha
  exact Call.fetch_of_act hact hpath

/-- An order that is left is delivered when it is looked after once its fetch has come to
its end. -/
theorem exists_delivers (embedded? : String → Option String)
    (fetch : String → Except String String) {i : Nat} (h : r.orderAt i ≠ .gone) :
    ∃ result, Delivers ((served embedded? fetch).take (.poll i true) r) i result := by
  obtain ⟨result, hresult⟩ := exists_done fetch h
  exact ⟨result, true, rfl, congrArg Reply.status hresult⟩

/-- An order is gone only when it is given up or delivered. -/
theorem gone_call {i : Nat} (hbefore : r.orderAt i ≠ .gone)
    (hafter : ((served embedded? fetch).step c r).2.orderAt i = .gone) :
    c = .drop i ∨ ∃ result, Delivers ((served embedded? fetch).take c r) i result := by
  rcases gone_step hbefore hafter with hact | ⟨arrival, result, hact, hreply⟩
  · cases c <;> cases hact
    exact .inl rfl
  · cases c with
    | poll j ended =>
      obtain ⟨rfl, -⟩ := Act.poll.inj hact
      exact .inr ⟨result, ended, rfl, hreply⟩
    | order | drop => cases hact

/-- An order comes to what it owes whenever it is delivered. -/
theorem Owes.tokens_of_delivers {i : Nat} {outcome : Except Failure (List Token)}
    (h : r.Owes fetch i outcome) {result : Except Failure Compiled}
    (hresult : Delivers ((served embedded? fetch).take c r) i result) :
    result.map Compiled.tokens = outcome :=
  h.2 _ (outcome?_of_delivers hresult)

/-- Whatever else is done, an order comes to what it owes. -/
theorem Owes.tokens_of_mem_steps {i : Nat} {outcome : Except Failure (List Token)}
    (h : r.Owes fetch i outcome) {later : List Call} {y : Machine.Step Run Call Reply}
    (hy : y ∈ (served embedded? fetch).steps later r) {result : Except Failure Compiled}
    (hresult : Delivers y i result) : result.map Compiled.tokens = outcome := by
  have hbefore := (keeps_served (keeps_owes i outcome)).before h hy
  rw [Machine.eq_take_of_mem hy] at hresult
  exact hbefore.tokens_of_delivers hresult

/-- Whatever else is done, an order that is left is given up, or it is delivered, or it is
still left and waits for its fetch. -/
theorem dropped_or_delivers {i : Nat} (h : r.orderAt i ≠ .gone) (later : List Call) :
    let m := served embedded? fetch
    (∃ y ∈ m.steps later r, y.act = .drop i ∨ ∃ result, Delivers y i result) ∨
      ∃ result, Delivers (m.take (.poll i true) (m.run later r)) i result := by
  intro m
  by_cases hgone : (m.run later r).orderAt i = .gone
  · left
    obtain ⟨y, hy, hbefore, hafter⟩ :=
      Machine.exists_step (P := fun s : Run => s.orderAt i = .gone) h hgone
    refine ⟨y, hy, ?_⟩
    rw [Machine.eq_take_of_mem hy] at hafter ⊢
    exact gone_call hbefore hafter
  · exact .inr (exists_delivers embedded? fetch hgone)

/-- **Each specifier is answered as if nothing were kept.**  Whatever is resolved, looked
after and given up before, a specifier is refused at once just as it is without the shelf,
or else an order is made.  Whatever follows, what the order is delivered with are the tokens
or the failure that the specifier comes to without the shelf, so that they render every
value to one text; and unless somebody gives the order up, it is delivered when it is looked
after once its fetch has come to its end. -/
theorem resolve_eq_answer (embedded? : String → Option String)
    (fetch : String → Except String String) (before later : List Call) (spec : String) :
    let m := served embedded? fetch
    let x := m.take (.order spec) (m.run before start)
    let history := m.steps later x.after
    (∀ failure, answer embedded? fetch spec = .refused failure →
      x.reply = .ordered (.error failure)) ∧
    ∀ outcome, answer embedded? fetch spec = .delivers outcome →
      ∃ i, x.reply = .ordered (.ok i) ∧
        (∀ y ∈ history, ∀ result, Delivers y i result →
          result.map Compiled.tokens = outcome ∧ ∀ data : Json,
            result.map (fun template => render template.tokens data) =
              outcome.map (render · data)) ∧
        ((∃ y ∈ history, y.act = .drop i ∨ ∃ result, Delivers y i result) ∨
          ∃ result, Delivers (m.take (.poll i true) (m.run later x.after)) i result ∧
            result.map Compiled.tokens = outcome) := by
  intro m x history
  have hfaithful : (m.run before start).IsFaithful embedded? fetch :=
    keeps_isFaithful.run before isFaithful_start
  have hreply : x.reply = .ordered ((m.run before start).order embedded? spec).1 := rfl
  have hafter : x.after = ((m.run before start).order embedded? spec).2 := rfl
  rcases order_eq_answer hfaithful spec with
    ⟨failure, hanswer, hrefused⟩ | ⟨outcome, hanswer, hordered, hmade⟩
  · rw [hanswer, hreply, hrefused]
    exact ⟨fun _ h => by rw [Answer.refused.inj h], fun _ h => by cases h⟩
  · rw [hanswer, hreply, hordered]
    refine ⟨fun _ h => (by cases h), fun outcome' h => ⟨_, rfl, ?_⟩⟩
    obtain rfl := Answer.delivers.inj h
    rw [← hafter] at hmade
    generalize (m.run before start).orders.length = i at hmade ⊢
    -- from here on the order owes its outcome, whatever else happens
    obtain ⟨howes, hleft⟩ := owes_of_outcome? hmade
    refine ⟨fun y hy result hresult => ?_, ?_⟩
    · obtain rfl := howes.tokens_of_mem_steps hy hresult
      refine ⟨rfl, fun data => ?_⟩
      cases result <;> rfl
    · refine (dropped_or_delivers hleft later).imp_right fun ⟨result, hresult⟩ => ?_
      have hlater : (m.run later x.after).Owes fetch i outcome :=
        (keeps_served (keeps_owes i outcome)).run later howes
      exact ⟨result, hresult, hlater.tokens_of_delivers hresult⟩

/-- Two fetches of one path overlap: the one that begins first ends last and replaces the
template that is kept, and yet each delivers the same tokens. -/
theorem resolve_eq_answer_overlap :
    let fetch : String → Except String String := fun _ => .ok "x"
    let m := served (fun _ => none) fetch
    let x := m.take (.order "/a") (m.run [.order "/a", .poll 0 false] start)
    let later : List Call := [.poll 1 true, .poll 0 true]
    answer (fun _ => none) fetch "/a" = .delivers (.ok [.literal ['x']]) ∧
    x.reply = .ordered (.ok 1) ∧
    ((m.steps later x.after).map fun y => y.after.shelf.entries) =
      [[("/a", ⟨0, [.literal ['x']]⟩)], [("/a", ⟨1, [.literal ['x']]⟩)]] ∧
    ∀ y ∈ m.steps later x.after, ∀ result, Delivers y 1 result →
      result.map Compiled.tokens = .ok [.literal ['x']] := by
  intro fetch m x later
  have hcompile : compile "x" = .ok [.literal ['x']] := by cbv
  have hanswer : answer (fun _ => none) fetch "/a" = .delivers (.ok [.literal ['x']]) :=
    (answer_of_path rfl).trans (congrArg Answer.delivers (compiled_of_ok hcompile))
  obtain ⟨-, hdelivers⟩ := resolve_eq_answer (fun _ => none) fetch
    [.order "/a", .poll 0 false] later "/a"
  obtain ⟨i, hi, hall, -⟩ := hdelivers _ hanswer
  have hreply : x.reply = .ordered (.ok 1) := rfl
  obtain rfl : 1 = i := Except.ok.inj (Reply.ordered.inj (hreply.symm.trans hi))
  exact ⟨hanswer, hreply, by decide +kernel,
    fun y hy result hresult => (hall y hy result hresult).1⟩

end Run

end VideoPosters.Template.Shelf
