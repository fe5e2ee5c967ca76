import VideoPosters.Proofs.Outcome
import VideoPosters.Proofs.Text.Case
import VideoPosters.Proofs.Url.Unmarked

/-!
# Cutting a written URL

A written URL is cut at its marks: the fragment stands behind the first number sign, and
before it the query behind the first question mark.  What is cut out of a URL are the parts
that were written, as long as no part holds the mark of a later one.  This is so for each
URL that is read from a text, and stays so when parameters are appended to its query,
whatever they are and whether there is a query or a fragment before or not.

## Main definitions

* `Cut`, `cut` — a written URL in three parts.
* `IsParted` — whether the marks keep the parts of a URL apart.

## Main results

* `cut_render` — the parts that are cut out of a written URL.
* `isParted_of_parse` — **the marks keep the parts of each URL apart that is read.**
* `isParted_withParameters` — appended parameters leave the parts apart.
-/

namespace VideoPosters.Url

/-! ### Cutting -/

/-- A written URL in parts. -/
structure Cut where
  upToPath : List Char
  query : Option (List Char)
  fragment : Option (List Char)
  deriving DecidableEq, Repr

/-- A written URL, cut at the first number sign and at the first question mark before it. -/
def cut (s : List Char) : Cut :=
  let front := s.takeWhile (· ≠ '#')
  ⟨front.takeWhile (· ≠ '?'), (front.dropWhile (· ≠ '?')).tail?, (s.dropWhile (· ≠ '#')).tail?⟩

/-- What is written with its mark is cut off there, if the mark does not stand before. -/
theorem cut_at {mark : Char} {s : List Char} (h : mark ∉ s) (t : Option (List Char)) :
    (s ++ t.elim [] (mark :: ·)).takeWhile (· ≠ mark) = s ∧
      ((s ++ t.elim [] (mark :: ·)).dropWhile (· ≠ mark)).tail? = t := by
  have hbefore : ∀ c ∈ s, decide (c ≠ mark) = true := by
    intro c hc
    rw [decide_eq_true_eq]
    rintro rfl
    exact h hc
  rw [List.takeWhile_append_of_pos hbefore, List.dropWhile_append_of_pos hbefore]
  cases t with
  | none => simp
  | some t => simp

theorem renderQuery_eq (query : Option (List Char)) :
    renderQuery query = query.elim [] ('?' :: ·) := by
  cases query <;> rfl

theorem renderFragment_eq (fragment : Option (List Char)) :
    renderFragment fragment = fragment.elim [] ('#' :: ·) := by
  cases fragment <;> rfl

/-- Whether the marks keep the parts of a URL apart: neither stands before the query, and
the one of the fragment not in the query. -/
structure IsParted (url : Url) : Prop where
  scheme : IsUnmarked url.scheme
  username : IsUnmarked url.username
  password : IsUnmarked url.password
  host : ∀ host, url.host = some host → IsUnmarked host.render
  path : IsUnmarked url.path.render
  query : ∀ query, url.query = some query → '#' ∉ query

theorem isUnmarked_renderCredentials {username password : List Char} (hname : IsUnmarked username)
    (hpassword : IsUnmarked password) : IsUnmarked (renderCredentials username password) := by
  have hat : endsPath '@' = false := rfl
  have hcolon : endsPath ':' = false := rfl
  rw [renderCredentials]
  split
  · exact isUnmarked_nil
  · split
    · simp [hname, hat]
    · simp [hname, hpassword, hat, hcolon]

theorem isUnmarked_renderPort (port : Option Nat) : IsUnmarked (renderPort port) := by
  cases port with
  | none => exact isUnmarked_nil
  | some port => exact isUnmarked_cons.2 ⟨rfl, isUnmarked_numeral port⟩

/-- Up to its path, a URL with parts apart holds no mark. -/
theorem IsParted.renderUpToPath {url : Url} (h : IsParted url) :
    IsUnmarked url.renderUpToPath := by
  have hslash : endsPath '/' = false := rfl
  have hauthority : IsUnmarked url.renderAuthority := by
    unfold renderAuthority
    split
    · next _ _ host hhost =>
      simp [hslash, isUnmarked_renderCredentials h.username h.password, h.host host hhost,
        isUnmarked_renderPort]
    · decide
    · exact isUnmarked_nil
  rw [Url.renderUpToPath, isUnmarked_append, isUnmarked_append, isUnmarked_cons]
  exact ⟨⟨h.scheme, rfl, hauthority⟩, h.path⟩

/-- **The parts that are cut out of a written URL** are those that were written. -/
theorem cut_render {url : Url} (h : IsParted url) :
    cut url.render = ⟨url.renderUpToPath, url.query, url.fragment⟩ := by
  have hquery := h.renderUpToPath.notMem.1
  -- no `#` stands before the fragment, so that the first one in the text is its mark
  have hfragment : '#' ∉ url.renderUpToPath ++ renderQuery url.query := by
    rw [List.mem_append, not_or]
    refine ⟨h.renderUpToPath.notMem.2, ?_⟩
    cases hq : url.query with
    | none => exact List.not_mem_nil
    | some query => simp [renderQuery, h.query query hq]
  obtain ⟨htakeFragment, hdropFragment⟩ := cut_at hfragment url.fragment
  obtain ⟨htakeQuery, hdropQuery⟩ := cut_at hquery url.query
  -- the fragment is cut off first, and the query of what is left
  rw [← renderFragment_eq] at htakeFragment hdropFragment
  rw [← renderQuery_eq] at htakeQuery hdropQuery
  rw [cut, render, htakeFragment, hdropFragment, htakeQuery, hdropQuery]

/-- Appended parameters leave the parts apart. -/
theorem isParted_withParameters {url : Url} (h : IsParted url) (ps : List Parameter) :
    IsParted (url.withParameters ps) := by
  refine ⟨h.scheme, h.username, h.password, h.host, h.path, fun query hquery => ?_⟩
  rw [← Option.some.inj hquery]
  apply notMem_appendParameters
  cases hbefore : url.query with
  | none => exact List.not_mem_nil
  | some before => exact h.query before hbefore

/-! ### Paths -/

theorem isUnmarked_segments {parts : List (List Char)} (h : ∀ s ∈ parts, IsUnmarked s) :
    IsUnmarked (Path.segments parts).render :=
  isUnmarked_flatMap fun s hs => isUnmarked_cons.2 ⟨rfl, h s hs⟩

theorem mem_of_mem_shorten {kind : SchemeKind} {segments : List (List Char)} {s : List Char}
    (h : s ∈ shorten kind segments) : s ∈ segments := by
  unfold shorten at h
  split at h
  · cases h
  · split at h
    · exact h
    · exact List.dropLast_subset _ h

theorem mem_of_mem_dropEmptyStart {segments : List (List Char)} {s : List Char}
    (h : s ∈ dropEmptyStart segments) : s ∈ segments := by
  induction segments using dropEmptyStart.induct with
  | case1 t rest ih =>
    rw [dropEmptyStart] at h
    exact List.mem_cons_of_mem _ (ih h)
  | case2 segments hstart => rwa [dropEmptyStart.eq_2 segments hstart] at h

/-- A drive letter is written with a colon. -/
theorem isUnmarked_driveLetter {piece : List Char} (h : isDriveLetter piece = true) :
    IsUnmarked (piece.take 1 ++ [':']) := by
  unfold isDriveLetter at h
  split at h
  · next a b =>
    rw [Bool.and_eq_true] at h
    have ha : a.isAlphanum = true := by rw [Char.isAlphanum, h.1, Bool.true_or]
    rw [isUnmarked_append]
    exact ⟨isUnmarked_cons.2 ⟨endsPath_of_isAlphanum ha, isUnmarked_nil⟩, by decide⟩
  · cases h

/-- No segment that a path adds holds a mark. -/
theorem isUnmarked_of_mem_walk {kind : SchemeKind} {done pieces : List (List Char)}
    (hdone : ∀ s ∈ done, IsUnmarked s) : ∀ s ∈ walk kind done pieces, IsUnmarked s := by
  -- no piece adds a segment with a mark to those that are there
  have hadd : ∀ {segments : List (List Char)} {t : List Char}, (∀ s ∈ segments, IsUnmarked s) →
      IsUnmarked t → ∀ s ∈ segments ++ [t], IsUnmarked s := by
    intro segments t hsegments ht
    rw [List.forall_mem_append, List.forall_mem_singleton]
    exact ⟨hsegments, ht⟩
  induction pieces generalizing done with
  | nil => exact hdone
  | cons piece pieces ih =>
    have hup : ∀ s ∈ shorten kind done, IsUnmarked s := fun s hs => hdone s (mem_of_mem_shorten hs)
    rw [walk]
    dsimp only
    split
    · -- `..` takes a segment away, and adds an empty one if the path ends there
      apply ih
      split
      · exact hadd hup isUnmarked_nil
      · exact hup
    · split
      · -- `.` takes nothing away
        apply ih
        split
        · exact hadd hdone isUnmarked_nil
        · exact hdone
      · split
        · next hdrive =>
          rw [Bool.and_eq_true] at hdrive
          exact ih (hadd hdone (isUnmarked_driveLetter hdrive.2))
        · exact ih (hadd hdone (isUnmarked_percentEncode rfl rfl piece))

theorem isUnmarked_pathFrom (kind : SchemeKind) {done : List (List Char)}
    (hdone : ∀ s ∈ done, IsUnmarked s) (s : List Char) :
    IsUnmarked (pathFrom kind done s).render := by
  have hwalk : ∀ t ∈ walk kind done (pathPieces kind s), IsUnmarked t :=
    isUnmarked_of_mem_walk hdone
  rw [pathFrom]
  apply isUnmarked_segments
  split
  · exact fun t ht => hwalk t (mem_of_mem_dropEmptyStart ht)
  · exact hwalk

/-! ### Reading -/

/-- The query that is read ends before the mark of the fragment. -/
theorem notMem_queryAndFragment {kind : SchemeKind} {s query : List Char}
    (h : (queryAndFragment kind s).1 = some query) : '#' ∉ query := by
  unfold queryAndFragment at h
  dsimp only at h
  split at h
  · rw [← Option.some.inj h]
    apply notMem_percentEncode
    split <;> rfl
  · cases h

theorem isParted_withPathFrom {url : Url} (h : IsParted url) (s : List Char) :
    IsParted (url.withPathFrom [] s) :=
  ⟨h.scheme, h.username, h.password, h.host, isUnmarked_pathFrom _ (List.forall_mem_nil _) _,
    fun _ hquery => notMem_queryAndFragment hquery⟩

theorem isParted_withQueryFrom {url : Url} (h : IsParted url) (s : List Char) :
    IsParted (url.withQueryFrom s) :=
  ⟨h.scheme, h.username, h.password, h.host, h.path,
    fun _ hquery => notMem_queryAndFragment hquery⟩

/-- Lower case puts no mark in. -/
theorem endsPath_toLower {c : Char} (h : endsPath c = false) : endsPath c.toLower = false := by
  cases hupper : c.isUpper with
  | false => rwa [Text.toLower_of_not_isUpper hupper]
  | true =>
    have hnat := Text.toNat_toLower_of_isUpper hupper
    have hrange := Text.isUpper_iff.1 hupper
    -- the small letter is 32 above its capital one, and both marks are below that
    rw [Bool.eq_false_iff, ne_eq, endsPath_iff]
    rintro (hmark | hmark)
    · rw [hmark, show '?'.toNat = 63 from rfl] at hnat
      omega
    · rw [hmark, show '#'.toNat = 35 from rfl] at hnat
      omega

theorem endsPath_of_isSchemeChar {c : Char} (h : isSchemeChar c = true) : endsPath c = false := by
  rw [Bool.eq_false_iff, ne_eq, endsPath_iff]
  rintro (rfl | rfl) <;> exact absurd h (by decide)

/-- A scheme holds letters, digits and a few other characters. -/
theorem isUnmarked_of_splitScheme? {s scheme rest : List Char}
    (h : splitScheme? s = some (scheme, rest)) : IsUnmarked scheme := by
  unfold splitScheme? at h
  split at h
  · split at h
    · split at h
      · obtain ⟨rfl, -⟩ := Prod.mk.inj (Option.some.inj h)
        intro c hc
        obtain ⟨d, hd, rfl⟩ := List.mem_map.1 hc
        have hchar := List.all_eq_true.1 List.all_takeWhile d hd
        exact endsPath_toLower (endsPath_of_isSchemeChar hchar)
      · cases h
    · cases h
  · cases h

/-- User name and password are encoded. -/
theorem isUnmarked_credentials (s : List Char) :
    IsUnmarked (credentials s).1 ∧ IsUnmarked (credentials s).2 := by
  rw [credentials]
  split
  · exact ⟨isUnmarked_percentEncode rfl rfl _, isUnmarked_percentEncode rfl rfl _⟩
  · exact ⟨isUnmarked_percentEncode rfl rfl _, isUnmarked_nil⟩

/-- The authority of given credentials and a given host with the port of a text, and what
follows. -/
def withPort? (scheme : List Char) (credentials : List Char × List Char) (isHostless : Bool)
    (portText after : List Char) (host : Host) : Except Error (Authority × List Char) := do
  if isHostless && !portText.isEmpty then throw .emptyHost
  let port ← port? scheme ((portText.drop 1).takeWhile (· ≠ '\\'))
  if isHostless && !(credentials.1.isEmpty && credentials.2.isEmpty) then throw .emptyHost
  .ok (⟨credentials.1, credentials.2, host, port⟩,
    (portText.drop 1).dropWhile (· ≠ '\\') ++ after)

/-- The authority of given credentials with the host and port of a text, and what follows. -/
def withHostAndPort? (scheme : List Char) (credentials : List Char × List Char)
    (hostAndPort after : List Char) : Except Error (Authority × List Char) :=
  let kind := schemeKind scheme
  let (hostText, portText) := splitHost false hostAndPort
  if hostText.isEmpty && kind = .special then .error .emptyHost
  else if kind = .other then
    Host.ofOther? hostText >>= withPort? scheme credentials hostText.isEmpty portText after
  else Host.ofSpecial? hostText >>= withPort? scheme credentials hostText.isEmpty portText after

/-- Credentials are read first, if there are any. -/
theorem authority?_eq (scheme s : List Char) :
    authority? scheme s =
      let isEnd (c : Char) : Bool := isSlash (schemeKind scheme) c || endsPath c
      let text := s.takeWhile (!isEnd ·)
      let after := s.dropWhile (!isEnd ·)
      match splitLastAt? text with
      | none => withHostAndPort? scheme ([], []) text after
      | some (before, hostAndPort) =>
        if before.isEmpty && hostAndPort.isEmpty && !after.isEmpty then .error .emptyHost
        else withHostAndPort? scheme (credentials before) hostAndPort after := by
  unfold authority?
  extract_lets kind isEnd text after
  -- once it is known what stands before the last `@`, both sides are the same steps
  cases hsplit : splitLastAt? text with
  | none => rfl
  | some found =>
    obtain ⟨before, hostAndPort⟩ := found
    dsimp -zeta only
    split
    · rfl
    · rfl

/-- The port comes to what is there. -/
theorem parts_of_withPort? {scheme portText after rest : List Char}
    {credentials : List Char × List Char} {isHostless : Bool} {host : Host} {authority : Authority}
    (h : withPort? scheme credentials isHostless portText after host = .ok (authority, rest)) :
    authority.username = credentials.1 ∧ authority.password = credentials.2 ∧
      authority.host = host := by
  rw [withPort?] at h
  split at h
  · cases h
  · obtain ⟨port, -, h⟩ := exists_of_bind_eq_ok h
    split at h
    · cases h
    · cases h
      exact ⟨rfl, rfl, rfl⟩

/-- No host that is read behind credentials holds a mark. -/
theorem parts_of_withHostAndPort? {scheme hostAndPort after rest : List Char}
    {credentials : List Char × List Char} {authority : Authority}
    (h : withHostAndPort? scheme credentials hostAndPort after = .ok (authority, rest)) :
    authority.username = credentials.1 ∧ authority.password = credentials.2 ∧
      IsUnmarked authority.host.render := by
  rw [withHostAndPort?] at h
  dsimp only at h
  split at h
  · cases h
  · split at h
    · obtain ⟨host, hhost, h⟩ := exists_of_bind_eq_ok h
      obtain ⟨hname, hpassword, rfl⟩ := parts_of_withPort? h
      exact ⟨hname, hpassword, isUnmarked_ofOther? hhost⟩
    · obtain ⟨host, hhost, h⟩ := exists_of_bind_eq_ok h
      obtain ⟨hname, hpassword, rfl⟩ := parts_of_withPort? h
      exact ⟨hname, hpassword, isUnmarked_ofSpecial? hhost⟩

/-- No part of an authority that is read holds a mark. -/
theorem isUnmarked_of_authority? {scheme s rest : List Char} {authority : Authority}
    (h : authority? scheme s = .ok (authority, rest)) :
    IsUnmarked authority.username ∧ IsUnmarked authority.password ∧
      IsUnmarked authority.host.render := by
  rw [authority?_eq] at h
  dsimp only at h
  split at h
  · obtain ⟨hname, hpassword, hhost⟩ := parts_of_withHostAndPort? h
    rw [hname, hpassword]
    exact ⟨isUnmarked_nil, isUnmarked_nil, hhost⟩
  · split at h
    · cases h
    · obtain ⟨hname, hpassword, hhost⟩ := parts_of_withHostAndPort? h
      rw [hname, hpassword]
      exact ⟨(isUnmarked_credentials _).1, (isUnmarked_credentials _).2, hhost⟩

/-- A URL with a host and nothing behind it. -/
theorem isParted_of_host {scheme username password : List Char} {host : Host} (port : Option Nat)
    (hscheme : IsUnmarked scheme) (hname : IsUnmarked username) (hpassword : IsUnmarked password)
    (hhost : IsUnmarked host.render) :
    IsParted ⟨scheme, username, password, some host, port, .segments [], none, none⟩ := by
  refine ⟨hscheme, hname, hpassword, fun host' heq => ?_, isUnmarked_nil, fun _ hquery => ?_⟩
  · rwa [← Option.some.inj heq]
  · cases hquery

/-- What is read after `//` has its parts apart. -/
theorem isParted_of_afterDoubleSlash {scheme s : List Char} {url : Url}
    (hscheme : IsUnmarked scheme) (h : afterDoubleSlash scheme s = .ok url) : IsParted url := by
  rw [afterDoubleSlash] at h
  obtain ⟨⟨authority, rest⟩, hauthority, h⟩ := exists_of_bind_eq_ok h
  obtain ⟨hname, hpassword, hhost⟩ := isUnmarked_of_authority? hauthority
  have hstart := isParted_of_host authority.port hscheme hname hpassword hhost
  dsimp only at h
  split at h
  · -- behind the authority there is a path, or the query of a URL without one
    split at h
    · cases h
      exact isParted_withPathFrom hstart _
    · split at h
      · cases h
        exact isParted_withQueryFrom hstart _
      · cases h
        exact isParted_withPathFrom hstart _
  · cases h
    split
    · exact hstart
    · exact isParted_withPathFrom hstart _

/-! ### Local files -/

theorem isParted_fileUrl {host : Host} (h : IsUnmarked host.render) : IsParted (fileUrl host) := by
  have hscheme : IsUnmarked "file".toList := by decide
  exact isParted_of_host none hscheme isUnmarked_nil isUnmarked_nil h

/-- A local file without a host. -/
theorem isParted_withPathFrom_fileUrl (s : List Char) :
    IsParted (withPathFrom (fileUrl (.name [])) [] s) := by
  have hhost : IsUnmarked (Host.name []).render := isUnmarked_nil
  exact isParted_withPathFrom (isParted_fileUrl hhost) s

theorem isParted_dropHostForDrive {url : Url} (h : IsParted url) :
    IsParted (dropHostForDrive url) := by
  unfold dropHostForDrive
  split
  · split
    · refine ⟨h.scheme, h.username, h.password, fun host heq => ?_, h.path, h.query⟩
      rw [← Option.some.inj heq]
      exact isUnmarked_nil
    · exact h
  · exact h

theorem isParted_of_fileAfterDoubleSlash {s : List Char} {url : Url}
    (h : fileAfterDoubleSlash s = .ok url) : IsParted url := by
  rw [fileAfterDoubleSlash] at h
  dsimp only at h
  split at h
  · cases h
    exact isParted_withPathFrom_fileUrl _
  · split at h
    · cases h
      exact isParted_withPathFrom_fileUrl _
    · obtain ⟨host, hhost, h⟩ := exists_of_bind_eq_ok h
      split at h
      · cases h
        exact isParted_withPathFrom_fileUrl _
      · cases h
        have hfile := isParted_fileUrl (isUnmarked_ofSpecial? hhost)
        exact isParted_dropHostForDrive (isParted_withPathFrom hfile _)

theorem isParted_of_file {s : List Char} {url : Url} (h : file none s = .ok url) :
    IsParted url := by
  unfold file at h
  split at h
  · split at h
    · split at h
      · split at h
        · exact isParted_of_fileAfterDoubleSlash h
        · cases h
          exact isParted_withPathFrom_fileUrl _
      · cases h
        exact isParted_withPathFrom_fileUrl _
    · cases h
      exact isParted_withPathFrom_fileUrl _
  · cases h
    exact isParted_withPathFrom_fileUrl _

/-! ### URLs -/

/-- What is read after a scheme has its parts apart. -/
theorem isParted_of_afterScheme {scheme s : List Char} {url : Url} (hscheme : IsUnmarked scheme)
    (h : afterScheme none scheme s = .ok url) : IsParted url := by
  -- nothing is there yet but the scheme
  have hstart : ∀ path : Path, IsUnmarked path.render →
      IsParted ⟨scheme, [], [], none, none, path, none, none⟩ := by
    intro path hpath
    refine ⟨hscheme, isUnmarked_nil, isUnmarked_nil, fun _ hhost => ?_, hpath, fun _ hquery => ?_⟩
    · cases hhost
    · cases hquery
  rw [afterScheme] at h
  cases hkind : schemeKind scheme with
  | file =>
    simp only [hkind] at h
    exact isParted_of_file h
  | special =>
    simp only [hkind] at h
    exact isParted_of_afterDoubleSlash hscheme h
  | other =>
    simp only [hkind] at h
    split at h
    · exact isParted_of_afterDoubleSlash hscheme h
    · cases h
      exact isParted_withPathFrom (hstart (.segments []) isUnmarked_nil) _
    · cases h
      exact isParted_withQueryFrom
        (hstart (.opaquePath _) ((isUnmarked_takeWhile s).percentEncode inControlSet)) _

/-- **The marks keep the parts of each URL apart that is read.** -/
theorem isParted_of_parse {text : String} {url : Url} (h : parse text = .ok url) :
    IsParted url := by
  rw [parse, parseWith] at h
  cases hsplit : splitScheme? (prepare text.toList) with
  | none =>
    simp only [hsplit] at h
    cases h
  | some found =>
    obtain ⟨scheme, rest⟩ := found
    simp only [hsplit] at h
    exact isParted_of_afterScheme (isUnmarked_of_splitScheme? hsplit) h

end VideoPosters.Url
