/-!
# Entries in the order of their names

Lists of named values, sorted by name, each name once.  They hold the fields of a JSON
object and every other collection in which a later entry replaces an earlier one of the
same name.

## Main definitions

* `Entries.insert` — sets an entry.
* `Entries.get?` — the value under a name.
* `Entries.insertAll` — sets every entry of a list.
* `Entries.ofList` — the entries of a list of assignments.

## Main results

* `Entries.get?_insert_self`, `Entries.get?_insert_of_ne` — **an entry just set is found
  and the others stay as they are.**
-/

namespace VideoPosters

/-- Named values in the order of their names. -/
abbrev Entries (α : Type) := List (String × α)

namespace Entries

variable {α : Type}

/-- Sets an entry, keeping the names in order and each name once. -/
def insert (name : String) (value : α) : Entries α → Entries α
  | [] => [(name, value)]
  | (n, v) :: rest =>
    if name < n then (name, value) :: (n, v) :: rest
    else if name = n then (name, value) :: rest
    else (n, v) :: insert name value rest

/-- The value under a name. -/
def get? (name : String) : Entries α → Option α
  | [] => none
  | (n, v) :: rest => if n = name then some v else get? name rest

/-- Sets every entry of a list, one after the other. -/
def insertAll (entries : Entries α) (more : List (String × α)) : Entries α :=
  more.foldl (fun entries (name, value) => insert name value entries) entries

/-- The entries of a list of assignments: of two with one name the later counts. -/
def ofList (assignments : List (String × α)) : Entries α := insertAll [] assignments

@[simp] theorem get?_nil (name : String) : get? name ([] : Entries α) = none := rfl

@[simp] theorem insert_nil (name : String) (value : α) :
    insert name value [] = [(name, value)] := rfl

@[simp] theorem insertAll_nil (entries : Entries α) : insertAll entries [] = entries := rfl

@[simp] theorem insertAll_cons (name : String) (value : α) (more : List (String × α))
    (entries : Entries α) :
    insertAll entries ((name, value) :: more) = insertAll (insert name value entries) more := rfl

/-- An entry just set is found. -/
@[simp] theorem get?_insert_self (name : String) (value : α) (entries : Entries α) :
    get? name (insert name value entries) = some value := by
  induction entries with
  | nil => simp [get?]
  | cons entry rest ih =>
    obtain ⟨n, v⟩ := entry
    rw [insert]
    split
    · simp [get?]
    · split
      · simp [get?]
      · next h => rw [get?, if_neg fun e => h e.symm, ih]

/-- Setting an entry leaves the others as they are. -/
theorem get?_insert_of_ne {name other : String} (h : other ≠ name) (value : α)
    (entries : Entries α) : get? other (insert name value entries) = get? other entries := by
  induction entries with
  | nil => simp [get?, h.symm]
  | cons entry rest ih =>
    obtain ⟨n, v⟩ := entry
    rw [insert]
    split
    · rw [get?, if_neg h.symm]
    · split
      · next e => subst e; simp [get?, h.symm]
      · rw [get?, get?, ih]

end Entries

end VideoPosters
