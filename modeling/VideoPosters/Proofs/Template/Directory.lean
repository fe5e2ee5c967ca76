import VideoPosters.Files
import VideoPosters.Proofs.Outcome
import VideoPosters.Specifier

/-!
# Templates of a directory

A template with an identifier is kept in a file of a directory.  The name of the file is made
from the identifier, and an identifier has no character that could lead out of the directory:
the file is always an entry of the directory itself.

## Main definitions

* `IsEntryName` — the names that an entry of a directory may have.
* `asFolder` — a path with a slash behind it, ready for the name of an entry.
* `Files.locate`, `Files.entry` — where a path leads, and an entry of the directory there.
* `withoutColons` — an identifier with each colon replaced.

## Main results

* `isEntryName_templateFileName` — the file of an identifier has the name of an entry.
* `Files.read_joinPath` — what is read behind a path and the name of an entry is that entry of
  the directory to which the path leads.
* `templateInDirectory_entry` — **a template is read from an entry of its directory, and two
  identifiers are read from one file just if they differ in colons and underscores at most.**
-/

namespace VideoPosters

/-- Whether a name is one that an entry of a directory may have: a single component of a path,
neither absolute nor leading to the directory itself or to the one above it. -/
structure IsEntryName (name : List Char) : Prop where
  ne_nil : name ≠ []
  notMem_slash : '/' ∉ name
  notMem_null : '\x00' ∉ name
  ne_here : name ≠ ['.']
  ne_above : name ≠ ['.', '.']

/-- A path with a slash behind it, unless it is empty or ends in one. -/
def asFolder (root : String) : String :=
  if root = "" ∨ root.toList.getLast? = some '/' then root else root ++ "/"

/-- An identifier with each colon replaced by an underscore. -/
def withoutColons (id : String) : List Char := id.toList.map fun c => if c = ':' then '_' else c

/-! ### The name of the file -/

theorem toList_templateFileName (id : String) :
    (templateFileName id).toList = withoutColons id ++ ".html".toList := by
  rw [templateFileName, String.toList_append, String.toList_ofList, withoutColons]

/-- Identifiers have files of one name just if they differ in colons and underscores at most. -/
theorem templateFileName_eq_iff {id other : String} :
    templateFileName id = templateFileName other ↔ withoutColons id = withoutColons other := by
  rw [← String.toList_inj, toList_templateFileName, toList_templateFileName,
    List.append_cancel_right_eq]

theorem isIdentifierChar_of_mem {id : List Char} (h : isIdentifier id = true) {c : Char}
    (hc : c ∈ id) : isIdentifierChar c = true := by
  cases id with
  | nil => cases h
  | cons first rest =>
    rw [isIdentifier, Bool.and_eq_true] at h
    rcases List.mem_cons.1 hc with rfl | hc
    · rw [isIdentifierChar, Char.isAlphanum, h.1]
      rfl
    · exact List.all_eq_true.1 h.2 c hc

/-- A character that is in no identifier, and that no colon is replaced by, is in no name of
a file. -/
theorem notMem_templateFileName {id : String} (h : isIdentifier id.toList = true) {c : Char}
    (hc : isIdentifierChar c = false) (hsuffix : c ∉ ".html".toList) :
    c ∉ (templateFileName id).toList := by
  rw [toList_templateFileName, List.mem_append, not_or]
  refine ⟨fun hmem => ?_, hsuffix⟩
  obtain ⟨d, hd, hdc⟩ := List.mem_map.1 hmem
  split at hdc
  · rw [← hdc] at hc
    exact absurd hc (by decide)
  · rw [← hdc, isIdentifierChar_of_mem h hd] at hc
    cases hc

/-- The file of an identifier has the name of an entry. -/
theorem isEntryName_templateFileName {id : String} (h : isIdentifier id.toList = true) :
    IsEntryName (templateFileName id).toList := by
  have hlength : 5 ≤ (templateFileName id).toList.length := by
    rw [toList_templateFileName, List.length_append]
    exact Nat.le_add_left _ _
  refine ⟨?_, notMem_templateFileName h (by decide) (by decide),
    notMem_templateFileName h (by decide) (by decide), ?_, ?_⟩
  all_goals
    intro heq
    rw [heq] at hlength
    exact absurd hlength (by decide)

theorem IsEntryName.head?_ne {name : List Char} (h : IsEntryName name) :
    name.head? ≠ some '/' := fun hhead => h.notMem_slash (List.mem_of_head? hhead)

/-! ### The path of the file -/

/-- A path that is not absolute is put behind the directory. -/
theorem joinPath_eq {root name : String} (h : name.toList.head? ≠ some '/') :
    joinPath root name = asFolder root ++ name := by
  rw [joinPath, asFolder]
  by_cases hempty : root = ""
  · simp [hempty]
  · by_cases hslash : root.toList.getLast? = some '/' <;> simp [h, hempty, hslash]

/-- A path that is ready for a name is empty or ends in a slash. -/
theorem asFolder_cases (root : String) :
    asFolder root = "" ∨ ∃ before, (asFolder root).toList = before ++ ['/'] := by
  rw [asFolder]
  split
  · next h =>
    exact h.imp_right List.getLast?_eq_some_iff.1
  · exact .inr ⟨root.toList, String.toList_append⟩

namespace Files

/-- The names on the way to a directory; a slash behind its path adds none. -/
def folderNames (root : String) : List (List Char) := (namesOf (asFolder root)).dropLast

/-- The names on the way to an entry of a directory are those on the way to the directory, and
its own. -/
theorem namesOf_asFolder {root name : String} (h : '/' ∉ name.toList) :
    namesOf (asFolder root ++ name) = folderNames root ++ [name.toList] := by
  rw [folderNames, namesOf, namesOf, String.toList_append]
  obtain hempty | ⟨before, hbefore⟩ := asFolder_cases root
  · rw [hempty]
    exact Text.splitAt_of_notMem h
  · rw [hbefore, List.append_assoc, Text.splitAt_append_cons, List.singleton_append,
      Text.splitAt_append_cons, Text.splitAt_of_notMem h, Text.splitAt_nil, List.dropLast_concat]

/-- A relative path is read by following its names. -/
theorem read_eq {files : Files} {path : String} (hempty : path ≠ "")
    (hslash : path.toList.head? ≠ some '/') :
    files.read path = (follow files [] (namesOf path)).bind File.read := by
  rw [read]
  split
  · next h => exact absurd (String.toList_eq_nil_iff.1 h) hempty
  · next h =>
    rw [h] at hslash
    exact absurd rfl hslash
  · rfl

/-! ### What is read -/

variable (files : Files)

/-- Where some names lead from the directory `here`.  Each of them is looked for in a
directory. -/
def locate (here : List (List Char)) :
    List (List Char) → Except FileError (List (List Char))
  | [] => .ok here
  | name :: names =>
    match files.find? here with
    | none => .error .notFound
    | some .directory =>
      if name = [] || name = ['.'] then locate here names
      else if name = ['.', '.'] then
        if here.isEmpty then .error .notFound else locate here.dropLast names
      else locate (here ++ [name]) names
    | some _ => .error .notDirectory

/-- The entry of a name in the directory at `there`. -/
def entry (name : List Char) (there : List (List Char)) : Except FileError File :=
  match files.find? there with
  | none => .error .notFound
  | some .directory =>
    match files.find? (there ++ [name]) with
    | some file => .ok file
    | none => .error .notFound
  | some _ => .error .notDirectory

/-- Some names are followed to where they lead, and from there the others. -/
theorem follow_append (here names more : List (List Char)) :
    follow files here (names ++ more) =
      (locate files here names).bind fun there => follow files there more := by
  induction names generalizing here with
  | nil => rfl
  | cons name names ih =>
    rw [List.cons_append, follow, locate]
    cases files.find? here with
    | none => rfl
    | some file =>
      cases file with
      | directory =>
        dsimp only
        split
        · exact ih here
        · split
          · split
            · rfl
            · exact ih here.dropLast
          · exact ih (here ++ [name])
      | _ => rfl

/-- One name that an entry may have leads to that entry. -/
theorem follow_singleton {name : List Char} (h : IsEntryName name) (there : List (List Char)) :
    follow files there [name] = files.entry name there := by
  have hstays : ¬(decide (name = []) || decide (name = ['.'])) = true := by
    simp [h.ne_nil, h.ne_here]
  rw [follow, entry]
  cases files.find? there with
  | none => rfl
  | some file =>
    cases file with
    | directory =>
      dsimp only
      rw [if_neg hstays, if_neg h.ne_above]
      exact follow.eq_1 files (there ++ [name])
    | _ => rfl

/-- **What is read behind a path and the name of an entry** is that entry of the directory to
which the path leads. -/
theorem read_joinPath {root name : String} (hroot : root.toList.head? ≠ some '/')
    (hname : IsEntryName name.toList) :
    files.read (joinPath root name) =
      ((files.locate [] (folderNames root)).bind (files.entry name.toList)).bind File.read := by
  have hpath : joinPath root name = asFolder root ++ name := joinPath_eq hname.head?_ne
  have hempty : joinPath root name ≠ "" := by
    rw [hpath, Ne, String.append_eq_empty_iff, not_and]
    exact fun _ h => hname.ne_nil (by rw [h]; rfl)
  have hslash : (joinPath root name).toList.head? ≠ some '/' := by
    rw [hpath, String.toList_append, List.head?_append]
    cases hchars : root.toList with
    | nil =>
      rw [String.toList_eq_nil_iff.1 hchars]
      exact hname.head?_ne
    | cons c rest =>
      have hfirst : (asFolder root).toList.head? = some c := by
        rw [asFolder]
        split <;> simp [hchars]
      rw [hfirst]
      rw [hchars] at hroot
      exact hroot
  rw [read_eq hempty hslash, hpath, namesOf_asFolder hname.notMem_slash, follow_append,
    funext (files.follow_singleton hname)]

end Files

/-! ### Templates -/

/-- **Where the templates of a directory are read from.**  What a specifier names by an
identifier is read from one file.  The name of that file is a single component of a path, with
the ending of markup; it stands behind the path of the directory, and below the working
directory that leads to an entry of the directory itself and nowhere else.  Two identifiers are
read from the same file, whatever it holds, just if they are the same once each colon is
replaced. -/
theorem templateInDirectory_entry {spec id : String}
    (h : Specifier.classify spec = .identifier id) :
    (IsEntryName (templateFileName id).toList ∧
      ".html".toList <:+ (templateFileName id).toList) ∧
    (∀ read root, templateInDirectory read root id =
      (read (asFolder root ++ templateFileName id)).toOption) ∧
    (∀ (files : Files) root, root.toList.head? ≠ some '/' →
      templateInDirectory files.read root id =
        (((files.locate [] (Files.folderNames root)).bind
          (files.entry (templateFileName id).toList)).bind File.read).toOption) ∧
    ∀ other otherId, Specifier.classify other = .identifier otherId → ∀ root,
      ((∀ read, templateInDirectory read root id = templateInDirectory read root otherId) ↔
        withoutColons id = withoutColons otherId) := by
  obtain rfl := Specifier.eq_of_classify_identifier h
  have hname := isEntryName_templateFileName (Specifier.isIdentifier_of_classify h)
  refine ⟨⟨hname, ?_⟩, fun read root => ?_, fun files root hroot => ?_,
    fun other otherId hother root => ?_⟩
  · rw [toList_templateFileName]
    exact List.suffix_append _ _
  · rw [templateInDirectory, joinPath_eq hname.head?_ne]
  · rw [templateInDirectory, files.read_joinPath hroot hname]
  · obtain rfl := Specifier.eq_of_classify_identifier hother
    have hname' := isEntryName_templateFileName (Specifier.isIdentifier_of_classify hother)
    rw [← templateFileName_eq_iff]
    constructor
    · intro hsame
      -- where only the first of the two files is there, both templates are
      have honly := hsame fun path =>
        if path = asFolder root ++ templateFileName id then .ok "" else .error .notFound
      rw [templateInDirectory, templateInDirectory, joinPath_eq hname.head?_ne,
        joinPath_eq hname'.head?_ne, if_pos rfl] at honly
      split at honly
      · next heq => exact (String.append_right_inj _).1 heq.symm
      · cases honly
    · intro heq read
      rw [templateInDirectory, templateInDirectory, heq]

/-- Two identifiers that differ in a colon, and their template in a directory whose path ends in
a slash. -/
theorem templateInDirectory_entry_colon :
    let files : Files := [([['t'], "ns_a.html".toList], .text "card")]
    Specifier.classify "ns:a" = .identifier "ns:a" ∧
    Specifier.classify "ns_a" = .identifier "ns_a" ∧
    IsEntryName (templateFileName "ns:a").toList ∧
    templateInDirectory files.read "./t/" "ns:a" = some "card" ∧
    ∀ read, templateInDirectory read "./t/" "ns:a" = templateInDirectory read "./t/" "ns_a" := by
  intro files
  have hcolon : Specifier.classify "ns:a" = .identifier "ns:a" := by decide +kernel
  have hplain : Specifier.classify "ns_a" = .identifier "ns_a" := by decide +kernel
  obtain ⟨⟨hname, -⟩, -, hfiles, hsame⟩ := templateInDirectory_entry hcolon
  exact ⟨hcolon, hplain, hname, (hfiles files "./t/" (by decide)).trans (by decide +kernel),
    (hsame "ns_a" "ns_a" hplain "./t/").2 (by decide +kernel)⟩

end VideoPosters
