import VideoPosters.Proofs.Template.ShelfSteps

/-!
# What the template shelf keeps

Several fetches of one path can be under way at once, and each that comes to its end
replaces the template that is kept.  Once a path is kept, no further order waits for it:
its template can change only as long as orders are left that were made before.  Orders
never wait for identifiers, so that the template of an identifier does not change at all.

## Main definitions

* `Embeds`, `Receives` — a step compiles the text given for a key.
* `begins` — whether a step begins the fetch of an order.
* `Run.WaitsForPaths` — the invariant of runs: orders wait for paths only.

## Main results

* `Run.get?_step` — a kept template is replaced only when an order comes to its end that
  waited for it.
* `Run.kept_templates` — **what the shelf keeps, from where it has it, and for how long.**
-/

namespace VideoPosters.Template.Shelf

/-- A step compiles the text embedded under a key. -/
def Embeds (x : Step) (key : String) (template : Compiled) : Prop :=
  ∃ embedded? text tokens, x.act = .order embedded? key ∧ embedded? key = some text ∧
    compile text = .ok tokens ∧ template = ⟨x.before.shelf.next, tokens⟩

/-- A step compiles the text that an order has received for the path it waited for. -/
def Receives (x : Step) (i : Nat) (path : String) (template : Compiled) : Prop :=
  ∃ text tokens, x.act = .poll i (some (.ok text)) ∧ x.before.pathAt? i = some path ∧
    compile text = .ok tokens ∧ template = ⟨x.before.shelf.next, tokens⟩

/-- Whoever receives a text waited for it. -/
theorem Receives.pathAt?_before {x : Step} {i : Nat} {path : String} {template : Compiled}
    (h : Receives x i path template) : x.before.pathAt? i = some path := by
  obtain ⟨-, -, -, hpath, -, -⟩ := h
  exact hpath

/-- Whether a step is a look after an order that begins its fetch. -/
def begins (i : Nat) (x : Step) : Bool :=
  match x.act with
  | .poll j _ => j == i && x.after.fetched.length != x.before.fetched.length
  | _ => false

/-! ### The invariants -/

/-- The numbers of the kept templates have been given out. -/
def IsNumbered (shelf : Shelf) : Prop :=
  ∀ key template, shelf.entries.get? key = some template → template.serial < shelf.next

theorem isNumbered_empty : empty.IsNumbered := fun _ _ h => by cases h

/-- A template that is kept from now on takes the next number. -/
theorem IsNumbered.insert {shelf : Shelf} (h : shelf.IsNumbered) (spec : String)
    (tokens : List Token) :
    IsNumbered ⟨shelf.entries.insert spec ⟨shelf.next, tokens⟩, shelf.next + 1⟩ := by
  intro key template hkey
  by_cases hspec : key = spec
  · subst hspec
    rw [Entries.get?_insert_self] at hkey
    cases hkey
    exact Nat.lt_succ_self _
  · rw [Entries.get?_insert_of_ne hspec] at hkey
    exact Nat.lt_succ_of_lt (h key template hkey)

namespace Run

variable {r : Run}

/-- Orders wait for paths only. -/
def WaitsForPaths (r : Run) : Prop :=
  ∀ i path, r.pathAt? i = some path → Specifier.classify path = .path path

theorem waitsForPaths_start : start.WaitsForPaths := fun i path h => by
  cases i <;> cases h

theorem keeps_waitsForPaths : machine.Keeps WaitsForPaths := by
  intro a r h i path hpath
  rcases pathAt?_step hpath with hold | ⟨-, hspec, -, -⟩
  · exact h i path hold
  · exact hspec

/-- No order waits for an identifier. -/
theorem WaitsForPaths.ne_of_isIdentifier (h : r.WaitsForPaths) {key : String}
    (hkey : isIdentifier key.toList = true) (i : Nat) : r.pathAt? i ≠ some key := by
  intro hpath
  have hspec := h i key hpath
  rw [Specifier.classify, if_pos hkey] at hspec
  cases hspec

theorem keeps_isNumbered : machine.Keeps fun r => r.shelf.IsNumbered := by
  intro a r h
  have heffect := effect_step a r
  generalize (machine.step a r).2.shelf = shelf at heffect ⊢
  cases heffect with
  | none hle => exact fun key template hkey => Nat.lt_of_lt_of_le (h key template hkey) hle
  | embed _ _ _ _ => exact h.insert _ _
  | arrive _ _ => exact h.insert _ _

/-! ### What one act does to a kept template -/

/-- A kept template stays, or it is replaced when an order comes to its end that waited for
it. -/
theorem get?_step {key : String} {template : Compiled}
    (h : r.shelf.entries.get? key = some template) (a : Act) :
    (machine.step a r).2.shelf.entries.get? key = some template ∨
      ∃ i template', Receives (machine.take a r) i key template' ∧
        (machine.step a r).2.shelf.entries.get? key = some template' := by
  have heffect := effect_step a r
  generalize (machine.step a r).2.shelf = shelf at heffect ⊢
  cases heffect with
  | none _ => exact .inl h
  | @embed _ spec _ _ hnone _ _ _ =>
    -- a text is embedded only where nothing was kept
    have hne : key ≠ spec := by
      rintro rfl
      rw [h] at hnone
      cases hnone
    exact .inl ((Entries.get?_insert_of_ne hne _ _).trans h)
  | @arrive i path text tokens hpath hcompile =>
    by_cases hkey : key = path
    · subst hkey
      have hnew := Entries.get?_insert_self key ⟨r.shelf.next, tokens⟩ r.shelf.entries
      exact .inr ⟨i, _, ⟨text, tokens, rfl, hpath, hcompile, rfl⟩, hnew⟩
    · exact .inl ((Entries.get?_insert_of_ne hkey _ _).trans h)

/-- A template that was not kept before is compiled from the text given for its key. -/
theorem origin_step (hpaths : r.WaitsForPaths) {key : String} {template : Compiled} {a : Act}
    (hbefore : r.shelf.entries.get? key ≠ some template)
    (hafter : (machine.step a r).2.shelf.entries.get? key = some template) :
    isIdentifier key.toList = true ∧ Embeds (machine.take a r) key template ∨
      key.toList.head? = some '/' ∧ ∃ i, Receives (machine.take a r) i key template := by
  have heffect := effect_step a r
  generalize (machine.step a r).2.shelf = shelf at heffect hafter
  cases heffect with
  | none _ => exact absurd hafter hbefore
  | @embed embedded? spec text tokens _ hspec htext hcompile =>
    by_cases hkey : key = spec
    · subst hkey
      obtain rfl := Option.some.inj ((Entries.get?_insert_self key _ _).symm.trans hafter)
      have hidentifier := Specifier.isIdentifier_of_classify hspec
      exact .inl ⟨hidentifier, embedded?, text, tokens, rfl, htext, hcompile, rfl⟩
    · -- under another key there is what was there before
      exact absurd ((Entries.get?_insert_of_ne hkey _ _).symm.trans hafter) hbefore
  | @arrive i path text tokens hpath hcompile =>
    by_cases hkey : key = path
    · subst hkey
      obtain rfl := Option.some.inj ((Entries.get?_insert_self key _ _).symm.trans hafter)
      have hslash := Specifier.head?_of_classify (hpaths i key hpath)
      exact .inr ⟨hslash, i, text, tokens, rfl, hpath, hcompile, rfl⟩
    · exact absurd ((Entries.get?_insert_of_ne hkey _ _).symm.trans hafter) hbefore

/-- A text that is received and compiles is kept for its path. -/
theorem get?_of_receives {a : Act} {i : Nat} {path : String} {template : Compiled}
    (h : Receives (machine.take a r) i path template) :
    (machine.step a r).2.shelf.entries.get? path = some template := by
  obtain ⟨text, tokens, rfl, hpath, hcompile, rfl⟩ := h
  have hpath : (r.orderAt i).path? = some path := hpath
  show (r.poll i (some (.ok text))).2.shelf.entries.get? path = _
  have hpolled := polled i (some (.ok text)) r
  generalize r.poll i (some (.ok text)) = result at hpolled ⊢
  cases hpolled with
  | take hready =>
    rw [hready] at hpath
    cases hpath
  | taken hgone =>
    rw [hgone] at hpath
    cases hpath
  | arrive hpath' hcompile' =>
    obtain rfl := Option.some.inj (hpath'.symm.trans hpath)
    obtain rfl := Except.ok.inj (hcompile'.symm.trans hcompile)
    exact Entries.get?_insert_self _ _ _
  | arriveFails _ hcompile' =>
    rw [hcompile] at hcompile'
    cases hcompile'

/-- An embedded text that compiles is kept for its identifier, if nothing was. -/
theorem get?_of_embeds {a : Act} {key : String} {template : Compiled}
    (h : Embeds (machine.take a r) key template) (hkey : isIdentifier key.toList = true)
    (hnone : r.shelf.contains key = false) :
    (machine.step a r).2.shelf.entries.get? key = some template := by
  obtain ⟨embedded?, text, tokens, rfl, htext, hcompile, rfl⟩ := h
  have hspec : Specifier.classify key = .identifier key := if_pos hkey
  show (r.order embedded? key).2.shelf.entries.get? key = _
  have hordered := ordered embedded? key r
  generalize r.order embedded? key = result at hordered ⊢
  cases hordered with
  | hit hkept =>
    rw [contains, hkept] at hnone
    cases hnone
  | unknown _ _ hmissing =>
    rw [htext] at hmissing
    cases hmissing
  | embed _ _ htext' hcompile' =>
    obtain rfl := Option.some.inj (htext'.symm.trans htext)
    obtain rfl := Except.ok.inj (hcompile'.symm.trans hcompile)
    exact Entries.get?_insert_self _ _ _
  | embedFails _ _ htext' hcompile' =>
    obtain rfl := Option.some.inj (htext'.symm.trans htext)
    rw [hcompile] at hcompile'
    cases hcompile'
  | path _ hspec' =>
    rw [hspec] at hspec'
    cases hspec'
  | literal _ hspec' _ =>
    rw [hspec] at hspec'
    cases hspec'
  | literalFails _ hspec' _ =>
    rw [hspec] at hspec'
    cases hspec'

/-! ### What holds from when a template is kept -/

/-- A key under which a template is kept stays such a key. -/
theorem keeps_contains (key : String) : machine.Keeps fun r => r.shelf.contains key = true := by
  intro a r h
  obtain ⟨template, htemplate⟩ := Option.isSome_iff_exists.1 h
  rcases get?_step htemplate a with hsame | ⟨-, template', -, hnew⟩
  · exact Option.isSome_iff_exists.2 ⟨template, hsame⟩
  · exact Option.isSome_iff_exists.2 ⟨template', hnew⟩

/-- Once a path is kept, no new order waits for it. -/
theorem pathAt?_step_of_contains {key : String} (h : r.shelf.contains key = true) {a : Act}
    {i : Nat} (hpath : (machine.step a r).2.pathAt? i = some key) : r.pathAt? i = some key := by
  rcases pathAt?_step hpath with hold | ⟨hnone, -, -, -⟩
  · exact hold
  · rw [contains, hnone] at h
    cases h

/-- Once a path is kept, only orders wait for it that did so already. -/
theorem keeps_waiting (r : Run) (key : String) : machine.Keeps fun s =>
    s.shelf.contains key = true ∧ ∀ i, s.pathAt? i = some key → r.pathAt? i = some key := by
  rintro a s ⟨hcontains, hold⟩
  refine ⟨keeps_contains key a s hcontains, fun i hi => ?_⟩
  exact hold i (pathAt?_step_of_contains hcontains hi)

/-- A kept template for whose key no order waits stays as it is. -/
theorem keeps_template (key : String) (template : Compiled) : machine.Keeps fun r =>
    r.shelf.entries.get? key = some template ∧ ∀ i, r.pathAt? i ≠ some key := by
  rintro a r ⟨h, hnobody⟩
  have hcontains : r.shelf.contains key = true := Option.isSome_iff_exists.2 ⟨template, h⟩
  refine ⟨?_, fun i hi => hnobody i (pathAt?_step_of_contains hcontains hi)⟩
  rcases get?_step h a with hsame | ⟨i, _, hreceives, -⟩
  · exact hsame
  · exact absurd hreceives.pathAt?_before (hnobody i)

/-- A kept template is handed out as it is, and nothing is fetched. -/
theorem order_of_get? {key : String} {template : Compiled}
    (h : r.shelf.entries.get? key = some template) (embedded? : String → Option String) :
    r.order embedded? key =
      (.ok r.orders.length, { r with orders := r.orders ++ [.ready template] }) := by
  rw [order, resolve]
  simp only [h]

/-! ### Fetches -/

theorem begins_take_poll (i j : Nat) (arrival : Option (Except String String)) (r : Run) :
    begins i (machine.take (.poll j arrival) r) =
      (j == i && (machine.step (.poll j arrival) r).2.fetched.length != r.fetched.length) := rfl

/-- Only a look after an order that has not been looked after begins its fetch. -/
theorem idle_of_begins {i : Nat} {a : Act} (h : begins i (machine.take a r) = true) :
    ∃ arrival path, a = .poll i arrival ∧ r.orderAt i = .idle path := by
  rcases fetched_step a r with hsame | ⟨j, arrival, path, rfl, hidle, -⟩
  · cases a with
    | poll j arrival =>
      rw [begins_take_poll, Bool.and_eq_true, bne_iff_ne] at h
      exact absurd (congrArg List.length hsame) h.2
    | _ => cases h
  · rw [begins_take_poll, Bool.and_eq_true, beq_iff_eq] at h
    obtain ⟨rfl, -⟩ := h
    exact ⟨arrival, path, rfl, hidle⟩

/-- The fetch of an order begins once at most. -/
theorem length_filter_begins_le_one (i : Nat) (acts : List Act) (r : Run) :
    ((machine.steps acts r).filter (begins i)).length ≤ 1 := by
  refine Machine.length_filter_steps_le_one (keeps_isBegun i) (fun a s h => ?_) (fun a s h => ?_)
    acts r
  · obtain ⟨arrival, path, rfl, hidle⟩ := idle_of_begins h
    exact isBegun_poll hidle arrival
  · rw [Bool.eq_false_iff]
    intro hbegins
    obtain ⟨arrival, path, -, hidle⟩ := idle_of_begins hbegins
    exact h.2 path hidle

/-! ### Whole runs -/

/-- Every kept template was compiled in some step from the text given for its key. -/
theorem exists_origin (acts : List Act) {key : String} {template : Compiled}
    (h : (machine.run acts start).shelf.entries.get? key = some template) :
    ∃ x ∈ machine.steps acts start, isIdentifier key.toList = true ∧ Embeds x key template ∨
      key.toList.head? = some '/' ∧ ∃ i, Receives x i key template := by
  have hstart : ¬ start.shelf.entries.get? key = some template := fun h => by cases h
  obtain ⟨x, hx, hbefore, hafter⟩ := Machine.exists_step
    (P := fun r : Run => r.shelf.entries.get? key = some template) hstart h
  have hpaths := keeps_waitsForPaths.before waitsForPaths_start hx
  refine ⟨x, hx, ?_⟩
  rw [Machine.eq_take_of_mem hx] at hafter ⊢
  exact origin_step hpaths hbefore hafter

/-- Every order that waits for a path was made by resolving the path before it was kept. -/
theorem exists_order (acts : List Act) {i : Nat} {path : String}
    (h : (machine.run acts start).pathAt? i = some path) :
    ∃ x ∈ machine.steps acts start, (∃ embedded?, x.act = .order embedded? path) ∧
      x.before.orders.length = i ∧ x.before.shelf.contains path = false := by
  have hstart : ¬ start.pathAt? i = some path := fun h => by cases i <;> cases h
  obtain ⟨x, hx, hbefore, hafter⟩ := Machine.exists_step
    (P := fun r : Run => r.pathAt? i = some path) hstart h
  rw [Machine.eq_take_of_mem hx] at hafter
  rcases pathAt?_step hafter with hold | ⟨hnone, -, rfl, hact⟩
  · exact absurd hold hbefore
  · exact ⟨x, hx, hact, rfl, by rw [contains, hnone]; rfl⟩

/-- From when a path is kept, its template is replaced only when an order comes to its end
that waited for the path then. -/
theorem eq_or_receives {path : String} (h : r.shelf.contains path = true) {later : List Act}
    {x : Step} (hx : x ∈ machine.steps later r) :
    x.after.shelf.entries.get? path = x.before.shelf.entries.get? path ∨
      ∃ i template, r.pathAt? i = some path ∧ Receives x i path template ∧
        x.after.shelf.entries.get? path = some template := by
  obtain ⟨hcontains, hwaited⟩ := (keeps_waiting r path).before ⟨h, fun _ hi => hi⟩ hx
  obtain ⟨template, htemplate⟩ := Option.isSome_iff_exists.1 hcontains
  have htake := Machine.eq_take_of_mem hx
  rcases get?_step htemplate x.act with hsame | ⟨i, template', hreceives, hnew⟩
  · left
    rw [htemplate, htake]
    exact hsame
  · right
    refine ⟨i, template', hwaited i hreceives.pathAt?_before, ?_, ?_⟩
    · rw [htake]
      exact hreceives
    · rw [htake]
      exact hnew

/-- **What the shelf keeps**, whatever is resolved, looked after and given up and whatever
the fetches bring.  A key is an identifier or starts with a slash, never a text, and its
template is an instance of its own, compiled from what was embedded under the key or
fetched for it; what is compiled so is kept at once.  No key is lost.  The template of an
identifier is never replaced, and whoever resolves the identifier gets it.  Once a path is
kept, its template is replaced only when an order comes to its end that waited for the path
already then, and never when there is no such order left.  An order fetches once at most,
its own path and only when it is looked after, and whatever waits for a path was made before
the path was kept. -/
theorem kept_templates (acts : List Act) :
    let r := machine.run acts start
    let history := machine.steps acts start
    (∀ key template, r.shelf.entries.get? key = some template →
      template.serial < r.shelf.next ∧ ∃ x ∈ history,
        isIdentifier key.toList = true ∧ Embeds x key template ∨
          key.toList.head? = some '/' ∧ ∃ i, Receives x i key template) ∧
    (∀ x ∈ history, ∀ key template,
      (isIdentifier key.toList = true ∧ x.before.shelf.contains key = false ∧
          Embeds x key template ∨ ∃ i, Receives x i key template) →
        x.after.shelf.entries.get? key = some template) ∧
    (∀ key, Specifier.classify key = .literal key → r.shelf.contains key = false) ∧
    (∀ key, r.shelf.contains key = true → ∀ later,
      (machine.run later r).shelf.contains key = true) ∧
    (∀ key template, isIdentifier key.toList = true →
      r.shelf.entries.get? key = some template → ∀ later,
        let s := machine.run later r
        s.shelf.entries.get? key = some template ∧ ∀ embedded?, s.order embedded? key =
          (.ok s.orders.length, { s with orders := s.orders ++ [.ready template] })) ∧
    (∀ path template, r.shelf.entries.get? path = some template → ∀ later,
      (∀ x ∈ machine.steps later r,
        x.after.shelf.entries.get? path = x.before.shelf.entries.get? path ∨
        ∃ i template', r.pathAt? i = some path ∧ Receives x i path template' ∧
          x.after.shelf.entries.get? path = some template') ∧
      ((∀ i, r.pathAt? i ≠ some path) →
        (machine.run later r).shelf.entries.get? path = some template)) ∧
    (∀ i, (history.filter (begins i)).length ≤ 1) ∧
    (∀ x ∈ history, x.after.fetched = x.before.fetched ∨
      ∃ i arrival path, x.act = .poll i arrival ∧ x.before.orderAt i = .idle path ∧
        x.after.fetched = path :: x.before.fetched) ∧
    (∀ i path, r.pathAt? i = some path → ∃ x ∈ history,
      (∃ embedded?, x.act = .order embedded? path) ∧ x.before.orders.length = i ∧
        x.before.shelf.contains path = false) := by
  intro r history
  have hpaths : r.WaitsForPaths := keeps_waitsForPaths.run acts waitsForPaths_start
  have hnumbered : r.shelf.IsNumbered := keeps_isNumbered.run acts isNumbered_empty
  have htake : ∀ x ∈ history, x = machine.take x.act x.before := fun x hx =>
    Machine.eq_take_of_mem hx
  refine ⟨fun key template hkey => ⟨hnumbered key template hkey, exists_origin acts hkey⟩,
    fun x hx key template hx' => ?_, fun key hliteral => ?_,
    fun key hkey later => (keeps_contains key).run later hkey,
    fun key template hidentifier hkey later => ?_,
    fun path template hkey later => ⟨fun x hx => ?_, fun hnobody => ?_⟩,
    fun i => length_filter_begins_le_one i acts start, fun x hx => ?_,
    fun i path hpath => exists_order acts hpath⟩
  · rw [htake x hx] at hx' ⊢
    rcases hx' with ⟨hidentifier, hnone, hembeds⟩ | ⟨i, hreceives⟩
    · exact get?_of_embeds hembeds hidentifier hnone
    · exact get?_of_receives hreceives
  · -- a literal text is neither an identifier nor a path, so nothing is kept under it
    rw [Bool.eq_false_iff]
    intro hcontains
    obtain ⟨template, hkey⟩ := Option.isSome_iff_exists.1 hcontains
    obtain ⟨hidentifier, hslash⟩ := Specifier.of_classify_literal hliteral
    obtain ⟨x, -, ⟨hkind, -⟩ | ⟨hkind, -⟩⟩ := exists_origin acts hkey
    · rw [hidentifier] at hkind
      cases hkind
    · exact hslash hkind
  · -- no order waits for an identifier, so its template is as safe as that of a path with none
    have hnobody := hpaths.ne_of_isIdentifier hidentifier
    have hsame := ((keeps_template key template).run later ⟨hkey, hnobody⟩).1
    exact ⟨hsame, order_of_get? hsame⟩
  · exact eq_or_receives (Option.isSome_iff_exists.2 ⟨template, hkey⟩) hx
  · exact ((keeps_template path template).run later ⟨hkey, hnobody⟩).1
  · rw [htake x hx]
    exact fetched_step x.act x.before

/-- Two fetches of one path overlap: the second to end replaces the template, which is
handed out from then on and for good. -/
theorem kept_templates_overlap :
    let acts : List Act := [.order (fun _ => none) "/a.html", .order (fun _ => none) "/a.html",
      .poll 0 (some (.ok "one")), .poll 1 (some (.ok "two"))]
    let r := machine.run acts start
    r.shelf.entries.get? "/a.html" = some ⟨1, [.literal "two".toList]⟩ ∧ ∀ later,
      (machine.run later r).shelf.entries.get? "/a.html" = some ⟨1, [.literal "two".toList]⟩ := by
  intro acts r
  have hkept : r.shelf.entries.get? "/a.html" = some ⟨1, [.literal "two".toList]⟩ := by
    decide +kernel
  have horders : r.orders = [.gone, .gone] := by decide +kernel
  have hnobody : ∀ i, r.pathAt? i ≠ some "/a.html" := by
    intro i hi
    rw [pathAt?, orderAt, horders] at hi
    rcases i with _ | _ | i <;> cases hi
  obtain ⟨-, -, -, -, -, hfixed, -⟩ := kept_templates acts
  exact ⟨hkept, fun later => (hfixed "/a.html" _ hkept later).2 hnobody⟩

end Run

end VideoPosters.Template.Shelf
