import VideoPosters.Url.Parse

/-!
# Where absolute paths lead

A text that starts with a slash is read relative to a base.  If no second slash follows, it
gives a path, and the host stays that of the base.  If one follows, the text names a host
of its own, and of the base nothing but the scheme counts.  Tabs and line breaks are not
read, so that they do not keep two slashes apart, and a backslash counts as a slash.

Local files have one more rule: a path that starts with a drive letter has no host.

## Main definitions

* `namesHost`, `namesDrive` — whether a text starts with two slashes, or with a slash and a
  drive letter, as it is read.
* `IsFiled` — what holds of the URL of a local file.

## Main results

* `join_of_namesHost` — a text that names a host leads there, whatever the base.
* `origin_join` — **a text that names none stays with the scheme, host and port of the
  base.**
* `scheme_join` — either leads to a URL of the scheme of the base.
* `isFiled_of_parse` — the URLs of local files that are read on their own.
-/

namespace VideoPosters.Url

/-- Whether a text starts with two slashes, as it is read. -/
def namesHost (text : String) : Bool :=
  match prepare text.toList with
  | a :: b :: _ => isSlash .special a && isSlash .special b
  | _ => false

/-- Whether a drive letter follows the first character of a text, as it is read. -/
def namesDrive (text : String) : Bool := startsWithDriveLetter ((prepare text.toList).drop 1)

/-- Tabs and line breaks are not read, wherever they stand. -/
def isUnread (c : Char) : Bool := c = '\t' || c = '\n' || c = '\r'

theorem isSlash_special_iff {c : Char} : isSlash .special c = true ↔ c = '/' ∨ c = '\\' := by
  simp [isSlash, SchemeKind.isSpecial]

/-! ### Reading a text that starts with a slash -/

/-- What is trimmed at the end stands behind each character that is not. -/
theorem trimEnd_append_cons (before : List Char) {c : Char} (hc : isTrimmed c = false)
    (s : List Char) : ((before ++ c :: s).reverse.dropWhile isTrimmed).reverse =
      before ++ c :: (s.reverse.dropWhile isTrimmed).reverse := by
  rw [List.reverse_append, List.reverse_cons, List.append_assoc, List.dropWhile_append]
  split
  · next hnone => simp [List.isEmpty_iff.1 hnone, hc]
  · simp

/-- What is read behind a first character that is not trimmed. -/
theorem prepare_cons {c : Char} (hc : isTrimmed c = false) (s : List Char) :
    prepare (c :: s) =
      (c :: (s.reverse.dropWhile isTrimmed).reverse).filter (!isUnread ·) := by
  have hstart : (c :: s).dropWhile isTrimmed = c :: s := by simp [hc]
  have hend := trimEnd_append_cons [] hc s
  rw [List.nil_append, List.nil_append] at hend
  rw [prepare, hstart, hend]
  rfl

/-- A slash at the start of a text is read first. -/
theorem prepare_slash (s : List Char) : ∃ rest, prepare ('/' :: s) = '/' :: rest :=
  ⟨_, (prepare_cons rfl s).trans (List.filter_cons_of_pos rfl)⟩

/-- No scheme starts with a slash. -/
theorem splitScheme?_slash (rest : List Char) : splitScheme? ('/' :: rest) = none := rfl

/-- A text that starts with a slash is read after the kind of the base. -/
theorem withoutScheme_slash (base : Url) (rest : List Char) :
    withoutScheme (some base) ('/' :: rest) = match base.path with
      | .opaquePath _ => .error .relativeWithOpaqueBase
      | .segments _ =>
        if schemeKind base.scheme = .file then file (some base) ('/' :: rest)
        else relative base ('/' :: rest) := by
  unfold withoutScheme
  dsimp only
  cases base.path <;> rfl

/-- A text that starts with a slash is read relative to the base. -/
theorem join_of_head? (base : Url) {text : String} (h : text.toList.head? = some '/') :
    ∃ rest, prepare text.toList = '/' :: rest ∧
      base.join text = withoutScheme (some base) ('/' :: rest) := by
  obtain ⟨s, hs⟩ : ∃ s, text.toList = '/' :: s := by
    cases htext : text.toList with
    | nil => simp [htext] at h
    | cons c s => exact ⟨s, by simpa [htext] using h⟩
  obtain ⟨rest, hrest⟩ := prepare_slash s
  rw [← hs] at hrest
  refine ⟨rest, hrest, ?_⟩
  rw [join, parseWith]
  simp only [hrest, splitScheme?_slash]

/-! ### Parts that are kept -/

@[simp] theorem origin_withPathFrom (url : Url) (done : List (List Char)) (s : List Char) :
    (url.withPathFrom done s).origin = url.origin := rfl

/-- What follows two slashes is read under the scheme that is given. -/
theorem scheme_of_afterDoubleSlash {scheme s : List Char} {url : Url}
    (h : afterDoubleSlash scheme s = .ok url) : url.scheme = scheme := by
  rw [afterDoubleSlash] at h
  cases hauthority : authority? scheme s with
  | error e =>
    rw [hauthority] at h
    cases h
  | ok found =>
    obtain ⟨authority, rest⟩ := found
    simp only [hauthority, bind, Except.bind] at h
    split at h
    · split at h
      · cases h; rfl
      · split at h <;> (cases h; rfl)
    · cases h
      split <;> rfl

/-! ### Local files -/

/-- What holds of the URL of a local file. -/
structure IsFiled (url : Url) : Prop where
  scheme_eq : url.scheme = "file".toList
  port_eq : url.port = none
  host_isSome : url.host.isSome = true
  /-- A path that starts with a drive letter has no host. -/
  host_eq : ∀ first rest, url.path = .segments (first :: rest) →
    isNormalDriveLetter first = true → url.host = some (.name [])

/-- A local file without a host. -/
theorem isFiled_withPathFrom (done : List (List Char)) (s : List Char) :
    IsFiled (withPathFrom (fileUrl (.name [])) done s) :=
  ⟨rfl, rfl, rfl, fun _ _ _ _ => rfl⟩

/-- A local file whose host gives way to a drive letter. -/
theorem isFiled_dropHostForDrive (host : Host) (done : List (List Char)) (s : List Char) :
    IsFiled (dropHostForDrive (withPathFrom (fileUrl host) done s)) := by
  cases hpath : (withPathFrom (fileUrl host) done s).path with
  | opaquePath t => cases hpath
  | segments parts =>
    rw [dropHostForDrive, hpath]
    cases parts with
    | nil =>
      refine ⟨rfl, rfl, rfl, fun first rest hsegments _ => ?_⟩
      rw [hpath] at hsegments
      cases hsegments
    | cons first rest =>
      by_cases hdrive : isNormalDriveLetter first = true
      · simp only [hdrive, if_true]
        exact ⟨rfl, rfl, rfl, fun _ _ _ _ => rfl⟩
      · simp only [hdrive]
        refine ⟨rfl, rfl, rfl, fun first' rest' hsegments hdrive' => ?_⟩
        rw [if_neg Bool.false_ne_true, hpath] at hsegments
        cases hsegments
        exact absurd hdrive' hdrive

/-- What is read behind two slashes is a local file. -/
theorem isFiled_of_fileAfterDoubleSlash {s : List Char} {url : Url}
    (h : fileAfterDoubleSlash s = .ok url) : IsFiled url := by
  rw [fileAfterDoubleSlash] at h
  dsimp only at h
  split at h
  · cases h
    exact isFiled_withPathFrom _ _
  · split at h
    · cases h
      exact isFiled_withPathFrom _ _
    · cases hhost : Host.ofSpecial? (s.takeWhile fun c => !(c = '/' || c = '\\' || endsPath c)) with
      | error e =>
        simp only [hhost] at h
        cases h
      | ok host =>
        simp only [hhost, bind, Except.bind] at h
        split at h
        · cases h
          exact isFiled_withPathFrom _ _
        · cases h
          exact isFiled_dropHostForDrive _ _ _

/-- What is read as a local file without a base is one. -/
theorem isFiled_of_file {s : List Char} {url : Url} (h : file none s = .ok url) :
    IsFiled url := by
  unfold file at h
  split at h
  · split at h
    · split at h
      · split at h
        · -- only behind two slashes can there be a host
          exact isFiled_of_fileAfterDoubleSlash h
        · cases h
          exact isFiled_withPathFrom _ _
      · cases h
        exact isFiled_withPathFrom _ _
    · cases h
      exact isFiled_withPathFrom _ _
  · cases h
    exact isFiled_withPathFrom _ _

/-- The URLs of local files that are read on their own. -/
theorem isFiled_of_parse {text : String} {url : Url} (h : parse text = .ok url)
    (hkind : schemeKind url.scheme = .file) : IsFiled url := by
  rw [parse, parseWith] at h
  cases hsplit : splitScheme? (prepare text.toList) with
  | none =>
    simp only [hsplit] at h
    cases h
  | some found =>
    obtain ⟨scheme, rest⟩ := found
    simp only [hsplit] at h
    rw [afterScheme] at h
    -- a scheme of another kind is kept by what is read under it
    cases hscheme : schemeKind scheme with
    | file =>
      simp only [hscheme] at h
      exact isFiled_of_file h
    | special =>
      simp only [hscheme] at h
      rw [scheme_of_afterDoubleSlash h, hscheme] at hkind
      cases hkind
    | other =>
      simp only [hscheme] at h
      have hkept : url.scheme = scheme := by
        split at h
        · exact scheme_of_afterDoubleSlash h
        · cases h; rfl
        · cases h; rfl
      rw [hkept, hscheme] at hkind
      cases hkind

/-! ### Texts that name no host -/

/-- A single slash leaves the host to the base. -/
theorem relative_slash (base : Url) {rest : List Char}
    (hrest : ∀ b tail, rest = b :: tail → isSlash .special b = false) :
    relative base ('/' :: rest) = .ok (withPathFrom base [] rest) := by
  cases rest with
  | nil => rfl
  | cons b tail =>
    have hb := hrest b tail rfl
    rw [Bool.eq_false_iff, ne_eq, isSlash_special_iff, not_or] at hb
    simp [relative, hb.1, hb.2]

/-- A single slash is read as such for a local file. -/
theorem file_slash (base : Option Url) {rest : List Char}
    (hrest : ∀ b tail, rest = b :: tail → isSlash .special b = false) :
    file base ('/' :: rest) = .ok (file.singleSlash base rest) := by
  cases rest with
  | nil => rfl
  | cons b tail =>
    have hb := hrest b tail rfl
    rw [Bool.eq_false_iff, ne_eq, isSlash_special_iff, not_or] at hb
    simp [file, hb.1, hb.2]

theorem scheme_singleSlash (base : Option Url) (rest : List Char) :
    (file.singleSlash base rest).scheme = "file".toList := by
  unfold file.singleSlash
  repeat' split
  all_goals rfl

/-- A single slash leaves the host of a local file to the base, unless a drive letter
follows. -/
theorem origin_singleSlash {base : Url} (hbase : IsFiled base) {rest : List Char}
    (hdrive : startsWithDriveLetter rest = false) :
    (file.singleSlash (some base) rest).origin = base.origin := by
  obtain ⟨host, hhost⟩ := Option.isSome_iff_exists.1 hbase.host_isSome
  have hkeep : ∀ (h : Host) (done : List (List Char)), base.host = some h →
      ((fileUrl h).withPathFrom done rest).origin = base.origin := by
    intro h done hh
    rw [origin_withPathFrom, origin, origin, hbase.scheme_eq, hbase.port_eq, hh]
    rfl
  rw [file.singleSlash, hdrive, hhost]
  simp only [Bool.false_eq_true, if_false, Option.getD_some]
  cases hpath : base.path with
  | opaquePath t => exact hkeep _ _ hhost
  | segments parts =>
    cases parts with
    | nil => exact hkeep _ _ hhost
    | cons first parts =>
      simp only [Path.toSegments]
      split
      · next hnormal =>
        -- the drive letter of the base is kept, and where it stands the base has no host
        exact hkeep _ _ (hbase.host_eq first parts hpath hnormal)
      · exact hkeep _ _ hhost

/-- What a text that names no host looks like behind its first slash. -/
theorem not_isSlash_of_namesHost {text : String} {rest : List Char}
    (hprepare : prepare text.toList = '/' :: rest) (h : namesHost text = false) :
    ∀ b tail, rest = b :: tail → isSlash .special b = false := by
  rintro b tail rfl
  rw [namesHost, hprepare] at h
  simpa [isSlash] using h

/-- **A text that starts with a slash and names no host stays with the scheme, host and
port of the base.**  Of local files this holds of paths without a drive letter. -/
theorem origin_join {base : Url} (hfiled : schemeKind base.scheme = .file → IsFiled base)
    {parts : List (List Char)} (hparts : base.path = .segments parts) {text : String}
    (hstart : text.toList.head? = some '/') (hhost : namesHost text = false) :
    ∃ url, base.join text = .ok url ∧ url.scheme = base.scheme ∧
      ((schemeKind base.scheme = .file → namesDrive text = false) →
        url.origin = base.origin) := by
  obtain ⟨rest, hprepare, hjoin⟩ := join_of_head? base hstart
  have hrest := not_isSlash_of_namesHost hprepare hhost
  rw [hjoin, withoutScheme_slash, hparts]
  dsimp only
  split
  · next hkind =>
    have hbase := hfiled hkind
    refine ⟨_, file_slash (some base) hrest, ?_, fun hdrive => ?_⟩
    · rw [scheme_singleSlash, hbase.scheme_eq]
    · have hnone := hdrive hkind
      rw [namesDrive, hprepare] at hnone
      exact origin_singleSlash hbase hnone
  · exact ⟨_, relative_slash base hrest, rfl, fun _ => rfl⟩

/-- Nothing is relative to a base without structure. -/
theorem join_of_opaquePath {base : Url} {path : List Char} (hpath : base.path = .opaquePath path)
    {text : String} (hstart : text.toList.head? = some '/') :
    base.join text = .error .relativeWithOpaqueBase := by
  obtain ⟨rest, -, hjoin⟩ := join_of_head? base hstart
  rw [hjoin, withoutScheme_slash, hpath]

/-! ### Texts that name a host -/

/-- What a text that names a host looks like behind its first slash. -/
theorem isSlash_of_namesHost {text : String} {rest : List Char}
    (hprepare : prepare text.toList = '/' :: rest) (h : namesHost text = true) :
    ∃ b tail, rest = b :: tail ∧ isSlash .special b = true := by
  rw [namesHost, hprepare] at h
  cases rest with
  | nil => simp at h
  | cons b tail => exact ⟨b, tail, rfl, by simpa [isSlash] using h⟩

/-- Behind two slashes only the scheme of the base counts. -/
theorem relative_slashes {b : Char} (hb : isSlash .special b = true) (rest scheme : List Char) :
    ∃ s, ∀ base : Url, base.scheme = scheme →
      relative base ('/' :: b :: rest) = afterDoubleSlash scheme s := by
  by_cases hslash : b = '/'
  · subst hslash
    exact ⟨rest, fun base h => by rw [relative, h]⟩
  · refine ⟨(b :: rest).dropWhile fun c => c = '/' || c = '\\', fun base h => ?_⟩
    obtain rfl : b = '\\' := (isSlash_special_iff.1 hb).resolve_left hslash
    rw [← h]
    simp [relative]

/-- Behind two slashes nothing of the base counts for a local file. -/
theorem file_slashes (base : Option Url) {b : Char} (hb : isSlash .special b = true)
    (rest : List Char) : file base ('/' :: b :: rest) = fileAfterDoubleSlash rest := by
  rcases isSlash_special_iff.1 hb with rfl | rfl <;> rfl

/-- A text that names a host leads there, whatever the base. -/
theorem join_of_namesHost {base other : Url} (hscheme : other.scheme = base.scheme)
    {parts parts' : List (List Char)} (hparts : base.path = .segments parts)
    (hparts' : other.path = .segments parts') {text : String}
    (hstart : text.toList.head? = some '/') (hhost : namesHost text = true) :
    other.join text = base.join text := by
  obtain ⟨rest, hprepare, hjoin⟩ := join_of_head? base hstart
  obtain ⟨rest', hprepare', hjoin'⟩ := join_of_head? other hstart
  obtain rfl : rest' = rest := by simpa [hprepare] using hprepare'.symm
  obtain ⟨b, tail, rfl, hb⟩ := isSlash_of_namesHost hprepare hhost
  rw [hjoin, hjoin', withoutScheme_slash, withoutScheme_slash, hparts, hparts', hscheme]
  dsimp only
  split
  · rw [file_slashes _ hb, file_slashes _ hb]
  · obtain ⟨s, hs⟩ := relative_slashes hb tail base.scheme
    rw [hs base rfl, hs other hscheme]

/-- Whatever a text with a slash in front leads to is of the scheme of the base. -/
theorem scheme_join {base : Url} (hfiled : schemeKind base.scheme = .file → IsFiled base)
    {text : String} (hstart : text.toList.head? = some '/') {url : Url}
    (h : base.join text = .ok url) : url.scheme = base.scheme := by
  obtain ⟨rest, hprepare, hjoin⟩ := join_of_head? base hstart
  cases hpath : base.path with
  | opaquePath path =>
    rw [join_of_opaquePath hpath hstart] at h
    cases h
  | segments parts =>
    -- a host of its own or not, the scheme is passed on in either case
    cases hhost : namesHost text with
    | false =>
      obtain ⟨url', hurl, hscheme, -⟩ := origin_join hfiled hpath hstart hhost
      rw [hurl] at h
      cases h
      exact hscheme
    | true =>
      obtain ⟨b, tail, rfl, hb⟩ := isSlash_of_namesHost hprepare hhost
      rw [hjoin, withoutScheme_slash, hpath] at h
      dsimp only at h
      split at h
      · next hkind =>
        rw [file_slashes _ hb] at h
        rw [(isFiled_of_fileAfterDoubleSlash h).scheme_eq, (hfiled hkind).scheme_eq]
      · obtain ⟨s, hs⟩ := relative_slashes hb tail base.scheme
        rw [hs base rfl] at h
        exact scheme_of_afterDoubleSlash h

end VideoPosters.Url
