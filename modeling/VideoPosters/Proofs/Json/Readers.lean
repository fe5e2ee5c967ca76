import VideoPosters.Proofs.Json.Rereading

/-!
# What the plain forms read

Of each plain form this file says what kind of things it reads, how they are related to the
value of the same node, and which values in memory it reads.

## Main definitions

* `Reader.Yields` — whether all that is read is of a kind.
* `Reader.Fits` — whether all that is read stands in a relation to the value of its node.
* `FitsOptional` — the relation of something that may be absent.

## Main results

* `foldFields_keeps`, `foldFields_fits` — what each field keeps, all fields keep.
* `exists_foldFields` — the fields of a value in memory are read if each of them is.
* `sequenceOf_accepts`, `entriesOf_accepts` — collections are read if all that is in them is.
-/

namespace VideoPosters.Json

theorem Node.reject_ne_ok {α : Type} {node : Node} {expected : String} {a : α} :
    node.reject expected ≠ .ok a := by
  intro h
  obtain ⟨_, -, h⟩ := exists_of_bind_eq_ok h
  cases h

/-! ### Fields in turn -/

section

variable {σ : Type} {step : σ → String → Node → Except ReadError σ}
  {fields : List (Passage × Node)} {stop : Option Break} {s s' : σ}

/-- What each field keeps, all fields keep. -/
theorem foldFields_keeps {P : σ → Prop}
    (hstep : ∀ {s name node s'}, P s → step s name node = .ok s' → P s')
    (h : foldFields step s fields stop = .ok s') (hs : P s) : P s' := by
  induction fields generalizing s with
  | nil =>
    obtain ⟨_, -, h⟩ := exists_of_bind_eq_ok h
    cases h
    exact hs
  | cons field fields ih =>
    obtain ⟨name, -, h⟩ := exists_of_bind_eq_ok h
    obtain ⟨_, hfirst, h⟩ := exists_of_bind_eq_ok h
    exact ih h (hstep hs hfirst)

/-- What each field keeps beside the values of the fields, all fields keep. -/
theorem foldFields_fits {R : σ → Entries Json → Prop} {room : Nat}
    (hstep : ∀ {s done name node v s'}, R s done → step s name node = .ok s' →
      anyValue room node = .ok v → R s' (done.insert name v))
    {done entries : Entries Json} (h : foldFields step s fields stop = .ok s')
    (h' : anyFields room fields stop done = .ok entries) (hs : R s done) : R s' entries := by
  induction fields generalizing s done with
  | nil =>
    obtain ⟨_, -, h⟩ := exists_of_bind_eq_ok h
    obtain ⟨_, -, h'⟩ := exists_of_bind_eq_ok h'
    cases h
    cases h'
    exact hs
  | cons field fields ih =>
    obtain ⟨name, hname, h⟩ := exists_of_bind_eq_ok h
    obtain ⟨_, hfirst, h⟩ := exists_of_bind_eq_ok h
    obtain ⟨name', hname', h'⟩ := exists_of_bind_eq_ok h'
    obtain ⟨v, hv, h'⟩ := exists_of_bind_eq_ok h'
    obtain rfl : name = name' := Except.ok.inj (hname.symm.trans hname')
    exact ih h h' (hstep hs hfirst hv)

/-- The fields of a value in memory are read if each of them is read behind others. -/
theorem exists_foldFields {R : σ → Entries Json → Prop} {fields : Entries Json}
    (hfields : fields.IsOrdered)
    (hstep : ∀ {s done name v}, R s done → done.get? name = none → fields.get? name = some v →
      ∃ s', step s name (.ofJson v) = .ok s' ∧ R s' (done.insert name v)) (hs : R s []) :
    ∃ s', foldFields step s (nodesOfFields fields) none = .ok s' ∧ R s' fields := by
  -- the fields that are left are in order, and none of them has been read
  have hall : ∀ (rest : Entries Json) (s : σ) (done : Entries Json), rest.IsOrdered →
      (∀ field ∈ rest, fields.get? field.1 = some field.2 ∧ done.get? field.1 = none) →
      R s done → ∃ s', foldFields step s (nodesOfFields rest) none = .ok s' ∧
        R s' (done.insertAll rest) := by
    intro rest
    induction rest with
    | nil => exact fun s done _ _ hs => ⟨s, rfl, hs⟩
    | cons field rest ih =>
      obtain ⟨name, v⟩ := field
      intro s done hrest hleft hs
      obtain ⟨hfirst, hrest⟩ := Entries.isOrdered_cons_iff.1 hrest
      obtain ⟨hv, hdone⟩ := hleft _ List.mem_cons_self
      obtain ⟨s₁, hread, hs₁⟩ := hstep hs hdone hv
      obtain ⟨s', hs', hR⟩ := ih s₁ (done.insert name v) hrest (fun later hlater => by
        obtain ⟨hvalue, hnone⟩ := hleft later (List.mem_cons_of_mem _ hlater)
        refine ⟨hvalue, ?_⟩
        rw [Entries.get?_insert_of_ne (hfirst later hlater).ne', hnone]) hs₁
      refine ⟨s', ?_, hR⟩
      rw [nodesOfFields, foldFields, Passage.read]
      show (step s name (.ofJson v)).bind _ = _
      rw [hread]
      exact hs'
  obtain ⟨s', hs', hR⟩ := hall fields s [] hfields
    (fun field hfield => ⟨hfields.mem_iff.1 hfield, rfl⟩) hs
  rw [← Entries.ofList, hfields.ofList_eq_self] at hR
  exact ⟨s', hs', hR⟩

/-- A record is read from a value in memory if a draft takes each field of it. -/
theorem exists_foldFields_of_fits {R : σ → Entries Json → Prop} {fields : Entries Json}
    {room : Nat} (hfields : IsOrdered (.object fields)) (hroom : heightOfFields fields ≤ room)
    (hfits : ∀ {s done name node v s'}, R s done → step s name node = .ok s' →
      anyValue room node = .ok v → R s' (done.insert name v))
    (htakes : ∀ {s done name v}, R s done → done.get? name = none →
      fields.get? name = some v → v.height ≤ room → ∃ s', step s name (.ofJson v) = .ok s')
    (hs : R s []) :
    ∃ s', foldFields step s (nodesOfFields fields) none = .ok s' ∧ R s' fields := by
  cases hfields with
  | object hordered hvalues =>
    refine exists_foldFields hordered (fun hs hnone hv => ?_) hs
    have hheight := (height_le_of_get? hv).trans hroom
    obtain ⟨s', hs'⟩ := htakes hs hnone hv hheight
    exact ⟨s', hs', hfits hs hs' ((hvalues _ _ hv).accepts room hheight)⟩

end

/-! ### Plain forms -/

namespace Reader

variable {α : Type}

/-- Whether all that is read is of a kind. -/
def Yields (read : Reader α) (P : α → Prop) : Prop :=
  ∀ {room node a}, read room node = .ok a → P a

/-- Whether all that is read stands in a relation to the value of its node. -/
def Fits (read : Reader α) (R : α → Json → Prop) : Prop :=
  ∀ {room node a v}, read room node = .ok a → anyValue room node = .ok v → R a v

end Reader

theorem string_fits : Reader.Fits string fun s v => v = .text s := by
  intro room node s v h hv
  cases node with
  | text p =>
    obtain ⟨t, ht, rfl⟩ := exists_of_map_eq_ok hv
    -- the reader and the value look at one passage
    exact congrArg Json.text (Except.ok.inj (ht.symm.trans h))
  | _ => exact absurd h Node.reject_ne_ok

theorem string_accepts (s : String) : Reader.Accepts string (.text s) s := fun _ _ => rfl

theorem word32OfInt_eq_ok_iff {i : Int} {n : Nat} :
    word32OfInt i = .ok n ↔ i = n ∧ n < Nat.pow 2 32 := by
  rw [word32OfInt]
  split
  · next h =>
    rw [Bool.and_eq_true, decide_eq_true_iff, decide_eq_true_iff] at h
    rw [Except.ok.injEq]
    constructor
    · rintro rfl
      omega
    · rintro ⟨rfl, -⟩
      omega
  · next h =>
    refine iff_of_false (fun h => nomatch h) ?_
    rintro ⟨rfl, hlt⟩
    apply h
    rw [Bool.and_eq_true, decide_eq_true_iff, decide_eq_true_iff]
    omega

/-- A number of 32 bits is read from an integer. -/
theorem word32_eq_ok {room : Nat} {node : Node} {n : Nat} (h : word32 room node = .ok n) :
    anyValue room node = .ok (.int n) ∧ n < Nat.pow 2 32 := by
  cases node with
  | int i =>
    obtain ⟨rfl, hlt⟩ := word32OfInt_eq_ok_iff.1 h
    exact ⟨rfl, hlt⟩
  | number numeral =>
    obtain ⟨value, hvalue, h⟩ := exists_of_bind_eq_ok h
    cases value with
    | int i =>
      obtain ⟨rfl, hlt⟩ := word32OfInt_eq_ok_iff.1 h
      exact ⟨hvalue, hlt⟩
    | _ => cases h
  | _ => exact absurd h Node.reject_ne_ok

theorem word32_yields : Reader.Yields word32 (· < Nat.pow 2 32) := fun h => (word32_eq_ok h).2

theorem word32_fits : Reader.Fits word32 fun n v => v = .int n := fun h hv =>
  Except.ok.inj (hv.symm.trans (word32_eq_ok h).1)

theorem word32_accepts {n : Nat} (h : n < Nat.pow 2 32) : Reader.Accepts word32 (.int n) n :=
  fun _ _ => word32OfInt_eq_ok_iff.2 ⟨rfl, h⟩

/-! ### Values that may be null -/

section

variable {α : Type} {read : Reader α} {P : α → Prop} {R : α → Json → Prop}

/-- Whether something that may be absent stands in a relation to a value: null, if it is. -/
def FitsOptional (R : α → Json → Prop) : Option α → Json → Prop
  | none, v => v = .null
  | some a, v => R a v

theorem optional_yields (h : Reader.Yields read P) :
    Reader.Yields (optional read) fun o => ∀ a, o = some a → P a := by
  intro room node o ho a ha
  subst ha
  cases node with
  | null => cases ho
  | _ =>
    obtain ⟨b, hb, hba⟩ := exists_of_map_eq_ok ho
    cases hba
    exact h hb

theorem optional_fits (h : Reader.Fits read R) :
    Reader.Fits (optional read) (FitsOptional R) := by
  intro room node o v ho hv
  cases node with
  | null =>
    cases ho
    exact (Except.ok.inj hv).symm
  | _ =>
    obtain ⟨b, hb, rfl⟩ := exists_of_map_eq_ok ho
    exact h hb hv

theorem optional_accepts_null : Reader.Accepts (optional read) .null none := fun _ _ => rfl

theorem optional_accepts {v : Json} {a : α} (h : Reader.Accepts read v a) (hv : v ≠ .null) :
    Reader.Accepts (optional read) v (some a) := by
  intro room hroom
  have hread := congrArg (Except.map some) (h room hroom)
  cases v with
  | null => exact absurd rfl hv
  | _ => exact hread

end

/-! ### Collections -/

section

variable {α : Type} {read : Reader α} {P : α → Prop} {R : α → Json → Prop}

theorem foldItems_keeps {σ : Type} {step : σ → Node → Except ReadError σ} {P : σ → Prop}
    (hstep : ∀ {s node s'}, P s → step s node = .ok s' → P s') {items : List Node}
    {stop : Option Break} {s s' : σ} (h : foldItems step s items stop = .ok s') (hs : P s) :
    P s' := by
  induction items generalizing s with
  | nil =>
    obtain ⟨_, -, h⟩ := exists_of_bind_eq_ok h
    cases h
    exact hs
  | cons item items ih =>
    obtain ⟨_, hfirst, h⟩ := exists_of_bind_eq_ok h
    exact ih h (hstep hs hfirst)

theorem sequenceOf_yields (h : Reader.Yields read P) :
    Reader.Yields (sequenceOf read) fun as => ∀ a ∈ as, P a := by
  intro room node as has
  cases node with
  | array items stop =>
    obtain ⟨_, -, has⟩ := exists_of_bind_eq_ok has
    obtain ⟨done, hdone, has⟩ := exists_of_bind_eq_ok has
    cases has
    -- the items are collected in reverse
    have hall : ∀ a ∈ done, P a := by
      refine foldItems_keeps (P := fun done => ∀ a ∈ done, P a) ?_ hdone (fun _ h => nomatch h)
      intro s node s' hs hread
      obtain ⟨a, ha, hread⟩ := exists_of_bind_eq_ok hread
      cases hread
      intro b hb
      rcases List.mem_cons.1 hb with rfl | hb
      · exact h ha
      · exact hs b hb
    exact fun a ha => hall a (List.mem_reverse.1 ha)
  | _ => exact absurd has Node.reject_ne_ok

/-- An array is read back if each of its items is. -/
theorem sequenceOf_accepts {write : α → Json} {as : List α}
    (h : ∀ a ∈ as, Reader.Accepts read (write a) a) :
    Reader.Accepts (sequenceOf read) (.array (as.map write)) as := by
  intro room hroom
  rw [height] at hroom
  -- by induction on the items that are left, with those that are read already in reverse
  have hall : ∀ (rest done : List α), (∀ a ∈ rest, a ∈ as) →
      foldItems (fun done item => do .ok ((← read (room - 1) item) :: done)) done
        (nodesOfItems (rest.map write)) none = .ok (rest.reverse ++ done) := by
    intro rest
    induction rest with
    | nil => exact fun done _ => rfl
    | cons a rest ih =>
      intro done hrest
      have hmem := hrest a List.mem_cons_self
      have hheight : (write a).height ≤ heightOfItems (as.map write) :=
        height_le_of_mem (List.mem_map_of_mem hmem)
      have hread := h a hmem (room - 1) (hheight.trans (by omega))
      rw [List.map_cons, nodesOfItems, foldItems, hread, List.reverse_cons, List.append_assoc]
      exact ih (a :: done) fun b hb => hrest b (List.mem_cons_of_mem _ hb)
  rw [Node.ofJson, sequenceOf, enter_of_pos (by omega)]
  show (foldItems _ [] _ none).bind _ = _
  rw [hall as [] fun a ha => ha, List.append_nil]
  exact congrArg Except.ok as.reverse_reverse

theorem entriesOf_yields (h : Reader.Yields read P) :
    Reader.Yields (entriesOf read) fun entries =>
      entries.IsOrdered ∧ ∀ name a, entries.get? name = some a → P a := by
  intro room node entries hentries
  cases node with
  | object fields stop =>
    obtain ⟨_, -, hentries⟩ := exists_of_bind_eq_ok hentries
    refine foldFields_keeps (P := fun entries : Entries α =>
      entries.IsOrdered ∧ ∀ name a, entries.get? name = some a → P a) ?_ hentries
      ⟨Entries.isOrdered_nil, fun _ _ h => nomatch h⟩
    rintro s name node s' ⟨hordered, hs⟩ hread
    obtain ⟨a, ha, hread⟩ := exists_of_bind_eq_ok hread
    cases hread
    refine ⟨hordered.insert name a, fun other b hb => ?_⟩
    rw [Entries.get?_insert] at hb
    split at hb
    · cases hb
      exact h ha
    · exact hs other b hb
  | _ => exact absurd hentries Node.reject_ne_ok

/-- Entries are read from an object with the same names. -/
theorem entriesOf_fits (h : Reader.Fits read R) :
    Reader.Fits (entriesOf read) fun entries v => ∃ fields : Entries Json, v = .object fields ∧
      ∀ name, Option.Rel R (entries.get? name) (fields.get? name) := by
  intro room node entries v hentries hv
  cases node with
  | object fields stop =>
    obtain ⟨_, -, hentries⟩ := exists_of_bind_eq_ok hentries
    obtain ⟨values, rfl, hvalues⟩ := anyValue_object_eq_ok hv
    refine ⟨values, rfl, foldFields_fits (R := fun (entries : Entries α) values =>
      ∀ name, Option.Rel R (entries.get? name) (values.get? name)) ?_ hentries hvalues
      fun _ => .none⟩
    intro s done name node v s' hs hread hv other
    obtain ⟨a, ha, hread⟩ := exists_of_bind_eq_ok hread
    cases hread
    rw [Entries.get?_insert, Entries.get?_insert]
    split
    · exact .some (h ha hv)
    · exact hs other
  | _ => exact absurd hentries Node.reject_ne_ok

/-- Entries are read from an object with the same names if each of them is read from its
value. -/
theorem entriesOf_accepts {entries : Entries α} {fields : Entries Json}
    (hentries : entries.IsOrdered) (hfields : fields.IsOrdered)
    (h : ∀ name, Option.Rel (fun a v => Reader.Accepts read v a) (entries.get? name)
      (fields.get? name)) : Reader.Accepts (entriesOf read) (.object fields) entries := by
  intro room hroom
  rw [height] at hroom
  -- so far the entries are there whose fields have been read
  let Read (done : Entries α) (values : Entries Json) : Prop :=
    done.IsOrdered ∧ ∀ name, done.get? name = (values.get? name).bind fun _ => entries.get? name
  obtain ⟨done, hread, hdone, hget⟩ : ∃ done, foldFields (fun (done : Entries α) name value => do
      .ok (done.insert name (← read (room - 1) value))) [] (nodesOfFields fields) none =
        .ok done ∧ Read done fields := by
    refine exists_foldFields hfields ?_ ⟨Entries.isOrdered_nil, fun _ => rfl⟩
    rintro done values name v ⟨hdone, hget⟩ - hv
    have hname := h name
    rw [hv] at hname
    generalize ha? : entries.get? name = a? at hname
    cases hname with
    | @some a _ hread =>
      have hheight := height_le_of_get? hv
      refine ⟨done.insert name a, ?_, hdone.insert name a, fun other => ?_⟩
      · rw [hread (room - 1) (by omega)]
        rfl
      · rw [Entries.get?_insert, Entries.get?_insert]
        split
        · next heq => rw [heq, ha?, Option.bind_some]
        · exact hget other
  -- all fields have been read, so nothing of the entries is missing
  have hsame : done = entries := by
    refine hdone.ext hentries fun name => ?_
    have hname := h name
    rw [hget]
    generalize entries.get? name = a? at hname ⊢
    generalize fields.get? name = v? at hname ⊢
    cases hname with
    | none => rfl
    | some _ => rfl
  rw [Node.ofJson, entriesOf, enter_of_pos (by omega), ← hsame]
  exact hread

end

end VideoPosters.Json
