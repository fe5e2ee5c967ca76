import VideoPosters.Json.Reading
import VideoPosters.Proofs.Json.Order
import VideoPosters.Proofs.Outcome

/-!
# Reading back a value

Whatever is read as a value has its objects in order, and a value with its objects in order
is read back from memory as it is.

## Main definitions

* `IsOrdered` — whether all objects in a value are in order.
* `Reader.Accepts` — whether a value in memory is read as something.

## Main results

* `isOrdered_of_anyValue` — what is read as a value is in order.
* `IsOrdered.accepts` — **a value in order is read back as it is.**
-/

namespace VideoPosters.Json

/-! ### Values in order -/

/-- Whether all objects in a value are in order. -/
inductive IsOrdered : Json → Prop where
  | null : IsOrdered .null
  | bool (b : Bool) : IsOrdered (.bool b)
  | int (n : Int) : IsOrdered (.int n)
  | real (x : Decimal.Binary64) : IsOrdered (.real x)
  | text (s : String) : IsOrdered (.text s)
  | array {items : List Json} (h : ∀ item ∈ items, IsOrdered item) : IsOrdered (.array items)
  | object {fields : Entries Json} (hfields : fields.IsOrdered)
      (h : ∀ name value, fields.get? name = some value → IsOrdered value) :
      IsOrdered (.object fields)

theorem isOrdered_emptyObject : IsOrdered (.object []) := by
  refine .object Entries.isOrdered_nil fun name value h => ?_
  rw [Entries.get?_nil] at h
  cases h

theorem IsOrdered.insert {fields : Entries Json} (h : IsOrdered (.object fields))
    (name : String) {value : Json} (hvalue : value.IsOrdered) :
    IsOrdered (.object (fields.insert name value)) := by
  cases h with
  | object hfields h =>
    refine .object (hfields.insert name value) fun other found hfound => ?_
    rw [Entries.get?_insert] at hfound
    split at hfound
    · cases hfound
      exact hvalue
    · exact h other found hfound

theorem IsOrdered.insertAll {fields : Entries Json} (h : IsOrdered (.object fields))
    {more : List (String × Json)} (hmore : ∀ field ∈ more, field.2.IsOrdered) :
    IsOrdered (.object (fields.insertAll more)) := by
  induction more generalizing fields with
  | nil => exact h
  | cons field more ih =>
    exact ih (h.insert field.1 (hmore field List.mem_cons_self)) fun other hother =>
      hmore other (List.mem_cons_of_mem _ hother)

theorem isOrdered_ofList {more : List (String × Json)}
    (hmore : ∀ field ∈ more, field.2.IsOrdered) : IsOrdered (.object (Entries.ofList more)) :=
  IsOrdered.insertAll isOrdered_emptyObject hmore

theorem isOrdered_of_realOf? {minus : Bool} {significand : Nat} {exponent : Int} {v : Json}
    (h : realOf? minus significand exponent = some v) : v.IsOrdered := by
  obtain ⟨x, -, rfl⟩ := Option.map_eq_some_iff.1 h
  exact .real _

theorem isOrdered_of_value? {n : Numeral} {v : Json} (h : n.value? = some v) :
    v.IsOrdered := by
  -- minus zero and what is too large for an integer are real, as is all with a fraction
  simp only [Numeral.value?] at h
  split at h
  · split at h
    · split at h
      · cases h
        exact .int _
      · split at h
        · exact isOrdered_of_realOf? h
        · cases h
          exact .int _
    · exact isOrdered_of_realOf? h
  · split at h
    · exact isOrdered_of_realOf? h
    · split at h
      · cases h
      · exact isOrdered_of_realOf? h

/-- A number is read as a number. -/
theorem isOrdered_of_read {n : Numeral} {v : Json} (h : n.read = .ok v) : v.IsOrdered := by
  rw [Numeral.read] at h
  split at h
  · next heq =>
    cases h
    exact isOrdered_of_value? heq
  · cases h

theorem anyValue_array_eq_ok {room : Nat} {items : List Node} {stop : Option Break} {v : Json}
    (h : anyValue room (.array items stop) = .ok v) : ∃ values,
      v = .array values ∧ anyItems (room - 1) items stop = .ok values := by
  obtain ⟨_, -, h⟩ := exists_of_bind_eq_ok h
  obtain ⟨values, hvalues, h⟩ := exists_of_bind_eq_ok h
  exact ⟨values, (Except.ok.inj h).symm, hvalues⟩

theorem anyValue_object_eq_ok {room : Nat} {fields : List (Passage × Node)}
    {stop : Option Break} {v : Json} (h : anyValue room (.object fields stop) = .ok v) :
    ∃ values : Entries Json, v = .object values ∧
      anyFields (room - 1) fields stop [] = .ok values := by
  obtain ⟨_, -, h⟩ := exists_of_bind_eq_ok h
  obtain ⟨values, hvalues, h⟩ := exists_of_bind_eq_ok h
  exact ⟨values, (Except.ok.inj h).symm, hvalues⟩

theorem anyItems_nil_eq_ok {room : Nat} {stop : Option Break} {values : List Json}
    (h : anyItems room [] stop = .ok values) : values = [] := by
  obtain ⟨_, -, h⟩ := exists_of_bind_eq_ok h
  exact (Except.ok.inj h).symm

theorem anyItems_cons_eq_ok {room : Nat} {item : Node} {items : List Node}
    {stop : Option Break} {values : List Json}
    (h : anyItems room (item :: items) stop = .ok values) : ∃ first rest,
      values = first :: rest ∧ anyValue room item = .ok first ∧
        anyItems room items stop = .ok rest := by
  obtain ⟨first, hfirst, h⟩ := exists_of_bind_eq_ok h
  obtain ⟨rest, hrest, h⟩ := exists_of_bind_eq_ok h
  exact ⟨first, rest, (Except.ok.inj h).symm, hfirst, hrest⟩

mutual

/-- What is read as a value is in order. -/
theorem isOrdered_of_anyValue {room : Nat} {v : Json} : ∀ {node : Node},
    anyValue room node = .ok v → v.IsOrdered
  | .null, h => by
    cases h
    exact .null
  | .bool b, h => by
    cases h
    exact .bool b
  | .int n, h => by
    cases h
    exact .int n
  | .real x, h => by
    cases h
    exact .real x
  | .number n, h => isOrdered_of_read h
  | .text p, h => by
    obtain ⟨s, -, rfl⟩ := exists_of_map_eq_ok h
    exact .text s
  | .array items stop, h => by
    obtain ⟨values, rfl, hvalues⟩ := anyValue_array_eq_ok h
    exact .array (isOrdered_of_anyItems hvalues)
  | .object fields stop, h => by
    obtain ⟨entries, rfl, hentries⟩ := anyValue_object_eq_ok h
    exact isOrdered_of_anyFields isOrdered_emptyObject hentries
  | .broken onRead onSkip, h => nomatch h

theorem isOrdered_of_anyItems {room : Nat} {stop : Option Break} {values : List Json} :
    ∀ {items : List Node}, anyItems room items stop = .ok values → ∀ v ∈ values, v.IsOrdered
  | [], h => by
    rw [anyItems_nil_eq_ok h]
    exact fun v hv => nomatch hv
  | item :: items, h => by
    obtain ⟨first, rest, rfl, hfirst, hrest⟩ := anyItems_cons_eq_ok h
    intro v hv
    rcases List.mem_cons.1 hv with rfl | hv
    · exact isOrdered_of_anyValue hfirst
    · exact isOrdered_of_anyItems hrest v hv

theorem isOrdered_of_anyFields {room : Nat} {stop : Option Break}
    {done entries : Entries Json} (hdone : IsOrdered (.object done)) :
    ∀ {fields : List (Passage × Node)}, anyFields room fields stop done = .ok entries →
      IsOrdered (.object entries)
  | [], h => by
    obtain ⟨_, -, h⟩ := exists_of_bind_eq_ok h
    cases h
    exact hdone
  | (name, node) :: fields, h => by
    obtain ⟨s, -, h⟩ := exists_of_bind_eq_ok h
    obtain ⟨v, hv, h⟩ := exists_of_bind_eq_ok h
    exact isOrdered_of_anyFields (hdone.insert s (isOrdered_of_anyValue hv)) h

end

/-! ### Reading back -/

theorem enter_of_pos {room : Nat} (h : 0 < room) : enter room = .ok () :=
  if_neg (Nat.ne_of_gt h)

theorem height_le_of_mem {item : Json} {items : List Json} (h : item ∈ items) :
    item.height ≤ heightOfItems items := by
  induction items with
  | nil => cases h
  -- the height of a list is the greatest in it
  | cons first rest ih =>
    rcases List.mem_cons.1 h with rfl | h
    · exact Nat.le_max_left _ _
    · exact (ih h).trans (Nat.le_max_right _ _)

theorem height_le_of_get? {name : String} {value : Json} {fields : Entries Json}
    (h : fields.get? name = some value) : value.height ≤ heightOfFields fields := by
  have hmem := Entries.mem_of_get? h
  clear h
  induction fields with
  | nil => cases hmem
  | cons first rest ih =>
    rcases List.mem_cons.1 hmem with rfl | hmem
    · exact Nat.le_max_left _ _
    · exact (ih hmem).trans (Nat.le_max_right _ _)

/-- Whether a value in memory is read as something, wherever there is room for the value. -/
def Reader.Accepts {α : Type} (read : Reader α) (value : Json) (a : α) : Prop :=
  ∀ room, value.height ≤ room → read room (.ofJson value) = .ok a

theorem anyItems_nodesOfItems {room : Nat} {items : List Json}
    (h : ∀ item ∈ items, anyValue room (.ofJson item) = .ok item) :
    anyItems room (nodesOfItems items) none = .ok items := by
  induction items with
  | nil => rfl
  | cons item items ih =>
    rw [nodesOfItems, anyItems, h item List.mem_cons_self,
      ih fun other hother => h other (List.mem_cons_of_mem _ hother)]
    rfl

theorem anyFields_nodesOfFields {room : Nat} {fields : List (String × Json)}
    (h : ∀ field ∈ fields, anyValue room (.ofJson field.2) = .ok field.2)
    (done : Entries Json) :
    anyFields room (nodesOfFields fields) none done = .ok (done.insertAll fields) := by
  induction fields generalizing done with
  | nil => rfl
  | cons field fields ih =>
    obtain ⟨name, value⟩ := field
    rw [nodesOfFields, anyFields, h (name, value) List.mem_cons_self]
    exact ih (fun other hother => h other (List.mem_cons_of_mem _ hother)) _

mutual

/-- Nothing breaks when a value in memory is skipped. -/
theorem skip_ofJson : ∀ v : Json, (Node.ofJson v).skip = none
  | .null | .bool _ | .int _ | .real _ | .text _ => rfl
  | .array items => by rw [Node.ofJson, Node.skip, skipItems_nodesOfItems items]; rfl
  | .object fields => by rw [Node.ofJson, Node.skip, skipFields_nodesOfFields fields]; rfl

theorem skipItems_nodesOfItems : ∀ items : List Json, skipItems (nodesOfItems items) = none
  | [] => rfl
  | item :: items => by
    rw [nodesOfItems, skipItems, skip_ofJson item, skipItems_nodesOfItems items]
    rfl

theorem skipFields_nodesOfFields :
    ∀ fields : List (String × Json), skipFields (nodesOfFields fields) = none
  | [] => rfl
  | (name, value) :: fields => by
    rw [nodesOfFields, skipFields, skip_ofJson value, skipFields_nodesOfFields fields]
    rfl

end

/-- **A value in order is read back as it is.** -/
theorem IsOrdered.accepts {v : Json} (h : v.IsOrdered) : Reader.Accepts anyValue v v := by
  induction h with
  | @array items _ ih =>
    intro room hroom
    rw [height] at hroom
    rw [Node.ofJson, anyValue, enter_of_pos (by omega)]
    have hitems : anyItems (room - 1) (nodesOfItems items) none = .ok items :=
      anyItems_nodesOfItems fun item hitem =>
        ih item hitem _ ((height_le_of_mem hitem).trans (by omega))
    show (anyItems (room - 1) _ none).bind _ = _
    rw [hitems]
    rfl
  | @object fields hfields _ ih =>
    intro room hroom
    rw [height] at hroom
    rw [Node.ofJson, anyValue, enter_of_pos (by omega)]
    -- names in order are inserted where they already stand
    have hread : anyFields (room - 1) (nodesOfFields fields) none [] =
        .ok (Entries.ofList fields) := by
      refine anyFields_nodesOfFields (fun field hfield => ?_) []
      have hget := hfields.mem_iff.1 hfield
      exact ih _ _ hget _ ((height_le_of_get? hget).trans (by omega))
    rw [hfields.ofList_eq_self] at hread
    show (anyFields (room - 1) _ none []).bind _ = _
    rw [hread]
    rfl
  | _ => exact fun _ _ => rfl

end VideoPosters.Json
