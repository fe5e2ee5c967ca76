import VideoPosters.Proofs.Json.Grammar
import VideoPosters.Proofs.Json.Integers
import VideoPosters.Settings.Location

/-!
# Settings overlay the defaults

A document of settings is an object of some of the fields, in any order and with anything else
among them, or an array of the values of the first few fields.  What it does not say is as in the
defaults.  Nothing is read from a document in which a field stands twice or has a value that is
not of its type.

## Main definitions

* `Settings.node` — the value of a field in a document.
* `Settings.overlay` — settings as far as some fields say, and the defaults elsewhere.
* `Settings.Overlays` — whether the fields of an object are given ones with others among them.
* `Settings.Field.Takes` — whether a value is of the type of a field.

## Main results

* `setField_overlay` — setting one field more.
* `foldFields_overlays`, `readPlaces_overlay` — setting the fields of an object, of an array.
* `takes_of_setField` — only values of its type are set as a field.
* `load_overlay` — **loading settings overlays the defaults.**
-/

namespace VideoPosters.Settings

open Json (Node Break ReadError Passage Numeral IsSpelled Spells)

/-! ### What a document of settings says -/

/-- Whether the numbers of some settings have 32 bits. -/
def IsSound (s : Settings) : Prop :=
  s.playerWidth < Nat.pow 2 32 ∧ s.playerHeight < Nat.pow 2 32

instance (s : Settings) : Decidable s.IsSound :=
  inferInstanceAs (Decidable (s.playerWidth < Nat.pow 2 32 ∧ s.playerHeight < Nat.pow 2 32))

/-- The value of a field in a document. -/
def node (s : Settings) : Field → Node
  | .apiKey => s.apiKey.elim .null fun key => .text (.plain key)
  | .apiUrl => .text (.plain s.apiUrl)
  | .part => .text (.plain s.part)
  | .playerScriptUrl => .text (.plain s.playerScriptUrl)
  | .template => .text (.plain s.template)
  | .templateBaseUrl => .text (.plain s.templateBaseUrl)
  | .placer => .text (.plain s.placer)
  | .onclick => .text (.plain s.onclick)
  | .posterSelector => .text (.plain s.posterSelector)
  | .playerWidth => .number (.ofNat s.playerWidth)
  | .playerHeight => .number (.ofNat s.playerHeight)

/-- Whether a value is of the type of a field: it has that value in some settings. -/
def Field.Takes (field : Field) (value : Node) : Prop :=
  ∃ s : Settings, s.IsSound ∧ value = s.node field

/-- The settings that are as given in some fields and as by default in the others. -/
def overlay (s : Settings) (fields : List Field) : Settings where
  apiKey := if .apiKey ∈ fields then s.apiKey else Settings.default.apiKey
  apiUrl := if .apiUrl ∈ fields then s.apiUrl else Settings.default.apiUrl
  part := if .part ∈ fields then s.part else Settings.default.part
  playerScriptUrl :=
    if .playerScriptUrl ∈ fields then s.playerScriptUrl else Settings.default.playerScriptUrl
  template := if .template ∈ fields then s.template else Settings.default.template
  templateBaseUrl :=
    if .templateBaseUrl ∈ fields then s.templateBaseUrl else Settings.default.templateBaseUrl
  placer := if .placer ∈ fields then s.placer else Settings.default.placer
  onclick := if .onclick ∈ fields then s.onclick else Settings.default.onclick
  posterSelector :=
    if .posterSelector ∈ fields then s.posterSelector else Settings.default.posterSelector
  playerWidth := if .playerWidth ∈ fields then s.playerWidth else Settings.default.playerWidth
  playerHeight := if .playerHeight ∈ fields then s.playerHeight else Settings.default.playerHeight

/-- Whether the fields of an object are the given ones, each once, in order and with its value in
some settings, and between them any fields of other names. -/
inductive Overlays (s : Settings) : List Field → List (Passage × Node) → Prop where
  | nil : Overlays s [] []
  | declared {field : Field} {fields : List Field} {members : List (Passage × Node)}
      (hnew : field ∉ fields) (h : Overlays s fields members) :
    Overlays s (field :: fields) ((.plain field.name, s.node field) :: members)
  | unknown {name : String} {value : Node} {fields : List Field}
      {members : List (Passage × Node)} (hname : ∀ field : Field, field.name ≠ name)
      (h : Overlays s fields members) : Overlays s fields ((.plain name, value) :: members)

/-- Whether a value says what some fields are in some settings: an object that holds them, or an
array of the values of the first few. -/
inductive Says (s : Settings) : List Field → Node → Prop where
  | object {fields : List Field} {members : List (Passage × Node)}
      (h : Overlays s fields members) : Says s fields (.object members none)
  | array (k : Nat) : Says s (Field.all.take k) (.array ((Field.all.take k).map s.node) none)

/-- Whether a value has a field twice, or a value that is not of the type of its field. -/
inductive IsFaulty : Node → Prop where
  | repeated {field : Field} {value value' : Node} {members : List (Passage × Node)}
      (h : [(.plain field.name, value), (.plain field.name, value')].Sublist members) :
    IsFaulty (.object members none)
  | mistyped {field : Field} {value : Node} {members : List (Passage × Node)}
      (hmember : (.plain field.name, value) ∈ members) (h : ¬ field.Takes value) :
    IsFaulty (.object members none)
  | mistypedPlace {field : Field} {value : Node} {items : List Node} {place : Nat}
      (hfield : Field.all[place]? = some field) (hitem : items[place]? = some value)
      (h : ¬ field.Takes value) : IsFaulty (.array items none)

/-! ### Fields -/

section

variable {s : Settings} {room : Nat} {field : Field} {done : List Field}

theorem Field.ofName?_name (field : Field) : Field.ofName? field.name = some field := by
  cases field <;> decide

theorem Field.ofName?_eq_none {name : String} (h : ∀ field : Field, field.name ≠ name) :
    Field.ofName? name = none := by
  rw [Field.ofName?, List.find?_eq_none]
  intro field _ hname
  exact h field (of_decide_eq_true hname)

theorem overlay_nil (s : Settings) : s.overlay [] = Settings.default := rfl

/-- Only which fields there are matters. -/
theorem overlay_congr {fields fields' : List Field} (h : ∀ field, field ∈ fields ↔ field ∈ fields')
    (s : Settings) : s.overlay fields = s.overlay fields' := by
  simp only [overlay, h]

/-- **Setting a field that has a value is one field more.** -/
theorem setField_overlay (hs : s.IsSound) (room : Nat) (field : Field) (done : List Field) :
    setField room (s.overlay done) field (s.node field) = .ok (s.overlay (field :: done)) := by
  have hwidth := Json.word32_number hs.1 room
  have hheight := Json.word32_number hs.2 room
  have hkey : Json.optional Json.string room (s.node .apiKey) = .ok s.apiKey := by
    unfold node
    cases s.apiKey <;> rfl
  cases field with
  | apiKey => simp [setField, hkey, overlay, bind, Except.bind, pure, Except.pure]
  | playerWidth => simp [setField, node, hwidth, overlay, bind, Except.bind, pure, Except.pure]
  | playerHeight => simp [setField, node, hheight, overlay, bind, Except.bind, pure, Except.pure]
  | _ =>
    simp [setField, node, Json.string, Passage.read, overlay, bind, Except.bind, pure, Except.pure]

/-! ### Objects and arrays -/

/-- Reading a field that has not been read yet. -/
theorem step_declared (hs : s.IsSound) (hnew : field ∉ done) :
    step room (s.overlay done, done) field.name (s.node field) =
      .ok (s.overlay (field :: done), field :: done) := by
  rw [step, Field.ofName?_name]
  dsimp only
  rw [if_neg (by simpa using hnew), setField_overlay hs]
  rfl

/-- A field of another name changes nothing. -/
theorem step_unknown {name : String} {value : Node} (hname : ∀ field : Field, field.name ≠ name)
    (hskip : value.skip = none) (state : Settings × List Field) :
    step room state name value = .ok state := by
  rw [step, Field.ofName?_eq_none hname]
  dsimp only
  rw [Json.skip, hskip]
  rfl

/-- **The fields of an object are set one after the other.** -/
theorem foldFields_overlays (hs : s.IsSound) {fields : List Field}
    {members : List (Passage × Node)} (h : Overlays s fields members)
    (hskip : ∀ member ∈ members, member.2.skip = none) (hnew : ∀ field ∈ fields, field ∉ done) :
    Json.foldFields (step room) (s.overlay done, done) members none =
      .ok (s.overlay (fields.reverse ++ done), fields.reverse ++ done) := by
  -- `done` are the fields in front, the last of them first
  induction h generalizing done with
  | nil => rfl
  | @declared field fields members hfield h ih =>
    have hstep : step room (s.overlay done, done) field.name (s.node field) =
        .ok (s.overlay (field :: done), field :: done) :=
      step_declared hs (hnew field List.mem_cons_self)
    rw [Json.foldFields, Passage.read]
    show (step room (s.overlay done, done) field.name (s.node field)).bind _ = _
    rw [hstep]
    refine (ih (fun member hmember => hskip member (List.mem_cons_of_mem _ hmember)) ?_).trans ?_
    · intro later hlater hmem
      rcases List.mem_cons.1 hmem with rfl | hmem
      · exact hfield hlater
      · exact hnew later (List.mem_cons_of_mem _ hlater) hmem
    · rw [List.reverse_cons, List.append_assoc, List.singleton_append]
  | @unknown name value fields members hname h ih =>
    have hstep : step room (s.overlay done, done) name value = .ok (s.overlay done, done) :=
      step_unknown hname (hskip _ List.mem_cons_self) _
    rw [Json.foldFields, Passage.read]
    show (step room (s.overlay done, done) name value).bind _ = _
    rw [hstep]
    exact ih (fun member hmember => hskip member (List.mem_cons_of_mem _ hmember)) hnew

/-- **The values of an array are set one after the other** as the first fields. -/
theorem readPlaces_overlay (hs : s.IsSound) (first later : List Field) :
    readPlaces room (s.overlay done) (first ++ later) (first.map s.node) none =
      .ok (s.overlay (first.reverse ++ done)) := by
  induction first generalizing done with
  | nil => cases later <;> rfl
  | cons field first ih =>
    rw [List.cons_append, List.map_cons, readPlaces, Json.nextItem]
    show (setField room (s.overlay done) field (s.node field)).bind _ = _
    rw [setField_overlay hs]
    refine ih.trans ?_
    rw [List.reverse_cons, List.append_assoc, List.singleton_append]

/-! ### What is refused -/

theorem eq_text_of_string {value : Node} {t : String} (h : Json.string room value = .ok t) :
    value = .text (.plain t) := by
  cases value with
  | text p =>
    cases p with
    | plain u => rw [Except.ok.inj h]
    | _ => cases h
  | _ => exact absurd h Json.Node.reject_ne_ok

theorem isSound_default : Settings.default.IsSound := by decide

/-- **Only values of its type are set as a field.** -/
theorem takes_of_setField {value : Node} {text : List Char} {t t' : Settings}
    (hspells : Spells value text) (h : setField room t field value = .ok t') :
    field.Takes value := by
  obtain ⟨hwidth, hheight⟩ := isSound_default
  have hword : ∀ n, Json.word32 room value = .ok n →
      value = .number (.ofNat n) ∧ n < Nat.pow 2 32 := by
    intro n hn
    cases hspells with
    | number hnumeral =>
      obtain ⟨rfl, hlt⟩ := Json.eq_ofNat_of_word32 hnumeral hn
      exact ⟨rfl, hlt⟩
    | _ => exact absurd hn Json.Node.reject_ne_ok
  cases field with
  | apiKey =>
    obtain ⟨key, hkey, -⟩ := exists_of_bind_eq_ok h
    refine ⟨{ Settings.default with apiKey := key }, ⟨hwidth, hheight⟩, ?_⟩
    unfold Json.optional at hkey
    split at hkey
    · cases hkey
      rfl
    · obtain ⟨u, hu, rfl⟩ := exists_of_map_eq_ok hkey
      exact eq_text_of_string hu
  | playerWidth =>
    obtain ⟨n, hn, -⟩ := exists_of_bind_eq_ok h
    obtain ⟨rfl, hlt⟩ := hword n hn
    exact ⟨{ Settings.default with playerWidth := n }, ⟨hlt, hheight⟩, rfl⟩
  | playerHeight =>
    obtain ⟨n, hn, -⟩ := exists_of_bind_eq_ok h
    obtain ⟨rfl, hlt⟩ := hword n hn
    exact ⟨{ Settings.default with playerHeight := n }, ⟨hwidth, hlt⟩, rfl⟩
  | _ =>
    obtain ⟨u, hu, -⟩ := exists_of_bind_eq_ok h
    -- the same text in all fields of texts will do for each of them
    exact ⟨⟨none, u, u, u, u, u, u, u, u, 640, 360⟩, ⟨hwidth, hheight⟩, eq_text_of_string hu⟩

/-- What reading a field comes to, if it succeeds. -/
theorem step_eq_ok {state state' : Settings × List Field} {name : String} {value : Node}
    (h : step room state name value = .ok state') :
    (∃ field t, Field.ofName? name = some field ∧ field ∉ state.2 ∧
      setField room state.1 field value = .ok t ∧ state' = (t, field :: state.2)) ∨
    Field.ofName? name = none ∧ state' = state := by
  rw [step] at h
  split at h
  · next field hfield =>
    split at h
    · cases h
    · next hnew =>
      obtain ⟨t, ht, h⟩ := exists_of_bind_eq_ok h
      exact .inl ⟨field, t, hfield, by simpa using hnew, ht, (Except.ok.inj h).symm⟩
  · next hnone =>
    obtain ⟨_, -, h⟩ := exists_of_bind_eq_ok h
    exact .inr ⟨hnone, (Except.ok.inj h).symm⟩

/-- What reading a field that there is comes to, if it succeeds. -/
theorem step_name_eq_ok {state state' : Settings × List Field} {value : Node}
    (h : step room state field.name value = .ok state') :
    field ∉ state.2 ∧ ∃ t, setField room state.1 field value = .ok t ∧
      state' = (t, field :: state.2) := by
  obtain ⟨field', t, hfield, hnew, hset, hstate⟩ | ⟨hnone, -⟩ := step_eq_ok h
  · rw [Field.ofName?_name] at hfield
    obtain rfl := Option.some.inj hfield
    exact ⟨hnew, t, hset, hstate⟩
  · rw [Field.ofName?_name] at hnone
    cases hnone

theorem foldFields_cons_eq_ok {state state' : Settings × List Field} {name : Passage}
    {value : Node} {members : List (Passage × Node)} {stop : Option Break}
    (h : Json.foldFields (step room) state ((name, value) :: members) stop = .ok state') :
    ∃ n middle, name = .plain n ∧ step room state n value = .ok middle ∧
      Json.foldFields (step room) middle members stop = .ok state' := by
  obtain ⟨n, hname, hrest⟩ := exists_of_bind_eq_ok h
  obtain ⟨middle, hstep, hmembers⟩ := exists_of_bind_eq_ok hrest
  cases name with
  | plain m => exact ⟨n, middle, by rw [Except.ok.inj hname], hstep, hmembers⟩
  | _ => cases hname

section

variable {state state' : Settings × List Field} {members : List (Passage × Node)}
  {stop : Option Break} {value value' : Node}

/-- A field that has been read does not come again. -/
theorem notMem_of_foldFields (h : Json.foldFields (step room) state members stop = .ok state')
    (hfield : field ∈ state.2) : (.plain field.name, value) ∉ members := by
  induction members generalizing state with
  | nil => exact List.not_mem_nil
  | cons member members ih =>
    obtain ⟨n, middle, hname, hstep, hmembers⟩ := foldFields_cons_eq_ok h
    -- what has been read stays read
    have hkept : field ∈ middle.2 := by
      rcases step_eq_ok hstep with ⟨_, _, _, _, _, rfl⟩ | ⟨-, rfl⟩
      · exact List.mem_cons_of_mem _ hfield
      · exact hfield
    intro hmem
    rcases List.mem_cons.1 hmem with rfl | hmem
    · obtain rfl := Passage.plain.inj hname
      exact (step_name_eq_ok hstep).1 hfield
    · exact ih hmembers hkept hmem

/-- **No field is read twice.** -/
theorem not_sublist_of_foldFields
    (h : Json.foldFields (step room) state members stop = .ok state') :
    ¬ [(.plain field.name, value), (.plain field.name, value')].Sublist members := by
  induction members generalizing state with
  | nil => exact fun hsublist => nomatch hsublist
  | cons member members ih =>
    obtain ⟨n, middle, hname, hstep, hmembers⟩ := foldFields_cons_eq_ok h
    intro hsublist
    rcases List.cons_sublist_cons'.1 hsublist with hlater | ⟨rfl, hlater⟩
    · exact ih hmembers hlater
    · obtain rfl := Passage.plain.inj hname
      obtain ⟨-, t, -, rfl⟩ := step_name_eq_ok hstep
      exact notMem_of_foldFields hmembers List.mem_cons_self (List.singleton_sublist.1 hlater)

/-- Each field is set from its value. -/
theorem exists_setField_of_foldFields
    (h : Json.foldFields (step room) state members stop = .ok state')
    (hmem : (.plain field.name, value) ∈ members) :
    ∃ t t', setField room t field value = .ok t' := by
  induction members generalizing state with
  | nil => cases hmem
  | cons member members ih =>
    obtain ⟨n, middle, hname, hstep, hmembers⟩ := foldFields_cons_eq_ok h
    rcases List.mem_cons.1 hmem with rfl | hmem
    · obtain rfl := Passage.plain.inj hname
      obtain ⟨-, t, hset, -⟩ := step_name_eq_ok hstep
      exact ⟨state.1, t, hset⟩
    · exact ih hmembers hmem

/-- Each item of an array is set as the field of its place. -/
theorem exists_setField_of_readPlaces {places : List Field} {items : List Node} {t t' : Settings}
    {place : Nat} (h : readPlaces room t places items stop = .ok t')
    (hfield : places[place]? = some field) (hitem : items[place]? = some value) :
    ∃ u u', setField room u field value = .ok u' := by
  induction places generalizing items t place with
  | nil => cases hfield
  | cons first places ih =>
    cases items with
    | nil => cases hitem
    | cons item items =>
      rw [readPlaces, Json.nextItem] at h
      obtain ⟨_, hnext, hset⟩ := exists_of_bind_eq_ok h
      cases hnext
      obtain ⟨u, hu, hrest⟩ := exists_of_bind_eq_ok hset
      cases place with
      | zero =>
        obtain rfl := Option.some.inj hfield
        obtain rfl := Option.some.inj hitem
        exact ⟨t, u, hu⟩
      | succ place => exact ih hrest hfield hitem

end

end

/-! ### Loading -/

section

variable {readFile : FileReader} {path document : String} {value : Node}

/-- The settings of a document are read from the value that it spells. -/
theorem load_of_isSpelled (hfile : readFile path = .ok document)
    (hdocument : IsSpelled document value) :
    load readFile path = (reader Json.depthLimit value).mapError .document := by
  have hread : Json.Reader.ofText reader document = reader Json.depthLimit value := by
    rw [Json.Reader.ofText, Json.Reader.ofDocument, hdocument.ofText_eq]
    cases reader Json.depthLimit value <;> rfl
  rw [load, hfile]
  show read document = _
  rw [read, hread]
  cases reader Json.depthLimit value <;> rfl

/-- What says some fields is read as they are, and otherwise as by default. -/
theorem reader_eq_ok {s : Settings} {fields : List Field} {text : List Char} (hs : s.IsSound)
    (h : Says s fields value) (hspells : Spells value text) :
    reader Json.depthLimit value = .ok (s.overlay fields) := by
  cases h with
  | @object _ members h =>
    have hskip : ∀ member ∈ members, member.2.skip = none := fun member hmember => by
      obtain ⟨_, hmember⟩ := hspells.of_mem_object hmember
      exact hmember.skip_eq_none
    have hread : Json.foldFields (step (Json.depthLimit - 1)) (s.overlay [], []) members none =
        .ok (s.overlay (fields.reverse ++ []), fields.reverse ++ []) :=
      foldFields_overlays hs h hskip fun _ _ => List.not_mem_nil
    rw [overlay_nil, List.append_nil, overlay_congr fun _ => List.mem_reverse] at hread
    show (Json.foldFields _ _ members none).bind _ = _
    rw [hread]
    rfl
  | array k =>
    have hread : readPlaces (Json.depthLimit - 1) (s.overlay [])
        (Field.all.take k ++ Field.all.drop k) ((Field.all.take k).map s.node) none =
          .ok (s.overlay ((Field.all.take k).reverse ++ [])) := readPlaces_overlay hs _ _
    rw [List.take_append_drop, overlay_nil, List.append_nil,
      overlay_congr fun _ => List.mem_reverse] at hread
    exact hread

/-- Nothing is read from what is faulty. -/
theorem reader_ne_ok {text : List Char} (h : IsFaulty value) (hspells : Spells value text)
    (t : Settings) : reader Json.depthLimit value ≠ .ok t := by
  intro hread
  cases h with
  | repeated h =>
    obtain ⟨_, -, hread⟩ := exists_of_bind_eq_ok hread
    obtain ⟨_, hfields, -⟩ := exists_of_bind_eq_ok hread
    exact not_sublist_of_foldFields hfields h
  | mistyped hmember h =>
    obtain ⟨_, -, hread⟩ := exists_of_bind_eq_ok hread
    obtain ⟨_, hfields, -⟩ := exists_of_bind_eq_ok hread
    obtain ⟨_, _, hset⟩ := exists_setField_of_foldFields hfields hmember
    obtain ⟨_, hvalue⟩ := hspells.of_mem_object hmember
    exact h (takes_of_setField hvalue hset)
  | mistypedPlace hfield hitem h =>
    obtain ⟨_, -, hread⟩ := exists_of_bind_eq_ok hread
    obtain ⟨_, _, hset⟩ := exists_setField_of_readPlaces hread hfield hitem
    obtain ⟨_, hvalue⟩ := hspells.of_mem_array (List.mem_of_getElem? hitem)
    exact h (takes_of_setField hvalue hset)

/-- **Loading settings overlays the defaults.**  A document that says some of the fields, an
object in any order and with any others among them or an array of the first few, gives the
settings that are as it says in these fields and as by default in the others.  A document that
has a field twice, or a value that is not of the type of its field, gives none. -/
theorem load_overlay (hfile : readFile path = .ok document)
    (hdocument : IsSpelled document value) :
    (∀ (s : Settings) (fields : List Field), s.IsSound → Says s fields value →
      load readFile path = .ok (s.overlay fields)) ∧
    (IsFaulty value → ∃ e, load readFile path = .error (.document e)) := by
  obtain ⟨_, text, _, _, hspells, _, _⟩ := id hdocument
  rw [load_of_isSpelled hfile hdocument]
  refine ⟨fun s fields hs h => ?_, fun h => ?_⟩
  · rw [reader_eq_ok hs h hspells]
    rfl
  · cases hread : reader Json.depthLimit value with
    | ok t => exact absurd hread (reader_ne_ok h hspells t)
    | error e => exact ⟨e, rfl⟩

end

/-- An object in another order, with a field of another name in between; and one that has a field
twice. -/
theorem load_overlay_reordered :
    load (fun _ => .ok "\x7b\"player_width\": 800, \"x\": [null], \"part\": \"p\"\x7d") "s.json" =
      .ok { Settings.default with part := "p", playerWidth := 800 } ∧
    ∃ e, load (fun _ => .ok "\x7b\"part\": \"p\", \"part\": \"p\"\x7d") "s.json" =
      .error (.document e) := by
  have hname (s : String) (h : (s.toList.all fun c => decide (Json.IsPlainChar c)) = true) :
      Json.SpellsPassage (.plain s) s.toList :=
    .plain (Json.spellsChars_self fun c hc => of_decide_eq_true (List.all_eq_true.1 h c hc))
  have hnone := Json.isBlanks_nil
  have hblank : Json.IsBlanks [' '] := by decide
  have hp : Spells (.text (.plain "p")) _ := .text (hname "p" (by decide))
  have hwidth : Spells (.number (.ofNat 800)) _ := .number (.mk (by decide) .absent .absent)
  have hordered := Spells.object hnone (.next (hname "player_width" (by decide)) hnone hblank hwidth
    hnone hblank (.next (hname "x" (by decide)) hnone hblank (.array hnone (.last .null hnone))
      hnone hblank (.last (hname "part" (by decide)) hnone hblank hp hnone)))
  have hrepeated := Spells.object hnone (.next (hname "part" (by decide)) hnone hblank hp hnone
    hblank (.last (hname "part" (by decide)) hnone hblank hp hnone))
  constructor
  · have hsaid : Says { Settings.default with part := "p", playerWidth := 800 }
        [.playerWidth, .part] (.object [(.plain "player_width", .number (.ofNat 800)),
          (.plain "x", .array [.null] none), (.plain "part", .text (.plain "p"))] none) :=
      .object (.declared (by decide) (.unknown (by rintro (_ | _) <;> decide)
        (.declared (by decide) .nil)))
    exact (load_overlay rfl ⟨[], _, [], hnone, hordered, hnone, by decide⟩).1 _ _ (by decide) hsaid
  · exact (load_overlay rfl ⟨[], _, [], hnone, hrepeated, hnone, by decide⟩).2
      (@IsFaulty.repeated .part _ _ _ (List.Sublist.refl _))

end VideoPosters.Settings
