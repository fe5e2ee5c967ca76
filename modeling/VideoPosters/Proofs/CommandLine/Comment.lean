import VideoPosters.CommandLine.Program

/-!
# The comment before a placed poster

A placed poster is printed behind a comment that tells its place, its link and its title.  The
address of the link and the title stand in it as they are.  Nothing that is written around them
can be part of an end of the comment, so that the comment ends where it should just if neither
of the two holds an end itself; otherwise a last part of it is left for the markup.

## Main definitions

* `occurrences` — how often a text occurs in another.
* `commentEnds` — the texts that end a comment of a page.

## Main results

* `occurrences_append_cons` — a character that a text does not hold parts its occurrences.
* `Token.afterComment_append_cons` — a text without an end of a comment is passed over.
* `Token.exists_afterComment` — no comment goes beyond its first end.
* `placementComment_ends` — **where the comment before a placed poster ends.**
* `placementComment_cut` — a video link whose address ends the comment early.
-/

namespace VideoPosters

/-- How often a text that is not empty occurs in another. -/
def occurrences (part : List Char) : List Char → Nat
  | [] => 0
  | c :: s => (if part.isPrefixOf (c :: s) then 1 else 0) + occurrences part s

/-- The texts that end a comment of a page. -/
def commentEnds : List (List Char) := ["-->".toList, "--!>".toList]

/-! ### Occurrences -/

section

variable {part s t : List Char} {c : Char}

/-- What starts before a character that it does not hold ends before it. -/
theorem isPrefixOf_append_cons (hc : c ∉ part) :
    part.isPrefixOf (s ++ c :: t) = part.isPrefixOf s := by
  induction part generalizing s with
  | nil => rfl
  | cons p part ih =>
    rw [List.mem_cons, not_or] at hc
    cases s with
    | nil => simp [List.isPrefixOf, Ne.symm hc.1]
    | cons d s => simp [List.isPrefixOf, ih hc.2]

/-- A character that a text does not hold parts its occurrences. -/
theorem occurrences_append_cons (hc : c ∉ part) (hne : part ≠ []) :
    occurrences part (s ++ c :: t) = occurrences part s + occurrences part t := by
  induction s with
  | nil =>
    have hfirst : part.isPrefixOf (c :: t) = false := by
      -- the part would have to end before the character, so be nothing
      rw [← List.nil_append (c :: t), isPrefixOf_append_cons hc, Bool.eq_false_iff, Ne,
        List.isPrefixOf_iff_prefix, List.prefix_nil]
      exact hne
    rw [List.nil_append, occurrences, occurrences, hfirst]
    rfl
  | cons d s ih =>
    rw [List.cons_append, occurrences, occurrences, ih, ← List.cons_append,
      isPrefixOf_append_cons hc, Nat.add_assoc]

end

/-! ### Ends of comments -/

/-- No comment ends in a text without dashes. -/
theorem not_infix_of_notMem_dash {s : List Char} (h : '-' ∉ s) :
    ∀ stop ∈ commentEnds, ¬ stop <:+: s := by
  intro stop hstop hin
  have hdash : '-' ∈ stop := by
    rcases List.mem_cons.1 hstop with rfl | hstop
    · exact List.mem_cons_self
    · rw [List.mem_singleton.1 hstop]
      exact List.mem_cons_self
  exact h (hin.subset hdash)

namespace Html.Token

/-- What is known to stand before the rest of a comment: some dashes, or two of them with an
exclamation mark. -/
def readBefore (dashes : Nat) (bang : Bool) : List Char :=
  if bang then ['-', '-', '!'] else List.replicate dashes '-'

theorem readBefore_of_two_le {dashes : Nat} (h : 2 ≤ dashes) :
    readBefore dashes false = List.replicate (dashes - 2) '-' ++ ['-', '-'] := by
  obtain ⟨n, rfl⟩ := Nat.exists_eq_add_of_le' h
  exact List.replicate_append_replicate.symm

/-- A text without an end of a comment is passed over, and so is a character behind it that is
in no end. -/
theorem afterComment_append_cons {s t : List Char} {c : Char} {dashes : Nat} {bang : Bool}
    (hc : c ≠ '-' ∧ c ≠ '!' ∧ c ≠ '>') (hbang : bang = true → dashes = 0)
    (hs : ∀ stop ∈ commentEnds, ¬ stop <:+: readBefore dashes bang ++ s) :
    afterComment dashes bang (s ++ c :: t) = afterComment 0 false t := by
  induction s generalizing dashes bang with
  | nil => simp [afterComment, hc]
  | cons d s ih =>
    -- what is known to stand before `s` does stand there
    have hrest : ∀ {dashes' : Nat} {bang' : Bool},
        readBefore dashes' bang' <:+ readBefore dashes bang ++ [d] →
        ∀ stop ∈ commentEnds, ¬ stop <:+: readBefore dashes' bang' ++ s := by
      rintro dashes' bang' ⟨before, hbefore⟩ stop hstop hin
      refine hs stop hstop (hin.trans ⟨before, [], ?_⟩)
      rw [List.append_nil, ← List.append_assoc, hbefore, List.append_assoc, List.singleton_append]
    rw [List.cons_append, afterComment]
    -- a `>` ends the comment, and dashes or a mark may come to stand before the next character
    split
    · next hend =>
      rw [Bool.and_eq_true, decide_eq_true_iff, Bool.or_eq_true, decide_eq_true_iff] at hend
      obtain ⟨rfl, hknown⟩ := hend
      cases bang with
      | true => exact absurd ⟨[], s, rfl⟩ (hs "--!>".toList (by decide))
      | false =>
        refine absurd ⟨List.replicate (dashes - 2) '-', s, ?_⟩ (hs "-->".toList (by decide))
        rw [readBefore_of_two_le (hknown.resolve_left Bool.false_ne_true), List.append_assoc,
          List.append_assoc]
        rfl
    · split
      · next hdash =>
        subst hdash
        refine ih (fun h => nomatch h) (hrest ?_)
        cases bang with
        | true => exact ⟨['-', '-', '!'], rfl⟩
        | false => exact ⟨[], List.replicate_succ'⟩
      · split
        · next hmark =>
          rw [Bool.and_eq_true, decide_eq_true_iff, decide_eq_true_iff] at hmark
          obtain ⟨rfl, hdashes⟩ := hmark
          refine ih (fun _ => rfl) (hrest ?_)
          cases bang with
          | true =>
            rw [hbang rfl] at hdashes
            exact absurd hdashes (by decide)
          | false =>
            rw [readBefore_of_two_le hdashes, List.append_assoc]
            exact List.suffix_append _ _
        · exact ih (fun h => nomatch h) (hrest (List.nil_suffix))

/-- A text without an end of a comment is passed over from its start on. -/
theorem afterComment_of_forall {s t : List Char} {c : Char} (hc : c ≠ '-' ∧ c ≠ '!' ∧ c ≠ '>')
    (hs : ∀ stop ∈ commentEnds, ¬ stop <:+: s) :
    afterComment 0 false (s ++ c :: t) = afterComment 0 false t :=
  afterComment_append_cons hc (fun _ => rfl) hs

/-- No comment goes beyond an end, whatever stands before it. -/
theorem exists_afterComment {stop : List Char} (h : stop ∈ commentEnds) (s t : List Char)
    (dashes : Nat) (bang : Bool) :
    ∃ left, left <:+ s ++ stop ∧ afterComment dashes bang (s ++ (stop ++ t)) = left ++ t := by
  induction s generalizing dashes bang with
  | nil =>
    -- whatever was read before, the end is one
    refine ⟨[], List.nil_suffix, ?_⟩
    rcases List.mem_cons.1 h with rfl | h
    · cases bang <;> simp [afterComment]
    · rw [List.mem_singleton.1 h]
      cases bang <;> simp [afterComment]
  | cons d s ih =>
    have hrest : ∀ dashes bang, ∃ left, left <:+ d :: s ++ stop ∧
        afterComment dashes bang (s ++ (stop ++ t)) = left ++ t := by
      intro dashes bang
      obtain ⟨left, hleft, hafter⟩ := ih dashes bang
      exact ⟨left, hleft.trans (List.suffix_cons _ _), hafter⟩
    rw [List.cons_append, List.cons_append, afterComment]
    -- the comment may end earlier, but it goes on no further than the end
    split
    · exact ⟨s ++ stop, List.suffix_cons _ _, by rw [List.append_assoc]⟩
    · split
      · exact hrest _ _
      · split
        · exact hrest _ _
        · exact hrest _ _

end Html.Token

/-! ### The comment of a poster -/

namespace CommandLine

open Html (Token)

variable (link : Link) (poster : Poster) (placer : Placer)

/-- What stands in the comment of a poster behind its place, with the end of the comment. -/
def commentContent : List Char :=
  link.href.toList ++ ' ' :: ([] ++ '"' :: (poster.video.item.title.toList ++ '"' ::
    ([] ++ ' ' :: "-->".toList)))

theorem toList_placementComment :
    (placementComment link poster placer).toList =
      "<!--".toList ++ ' ' :: (placer.name.toList ++ ' ' :: commentContent link poster) := by
  simp [placementComment, commentContent, String.toList_append]

/-- The comment is ended wherever the address is, wherever the title is, and at its end. -/
theorem occurrences_placementComment :
    occurrences "-->".toList (placementComment link poster placer).toList =
      occurrences "-->".toList link.href.toList +
        occurrences "-->".toList poster.video.item.title.toList + 1 := by
  have hspace : ' ' ∉ "-->".toList := by decide
  have hquote : '"' ∉ "-->".toList := by decide
  have hne : "-->".toList ≠ [] := by decide
  have hopening : occurrences "-->".toList "<!--".toList = 0 := by decide
  have hname : occurrences "-->".toList placer.name.toList = 0 := by cases placer <;> decide
  have hclosing : occurrences "-->".toList "-->".toList = 1 := by decide
  rw [toList_placementComment, commentContent, occurrences_append_cons hspace hne, hopening,
    occurrences_append_cons hspace hne, hname, occurrences_append_cons hspace hne,
    occurrences_append_cons hquote hne, occurrences_append_cons hquote hne,
    occurrences_append_cons hspace hne, hclosing, occurrences]
  omega

/-- The comment is read past its opening and its place, which do not end it. -/
theorem next_placementComment (sections : Bool) (rest : List Char) :
    Token.next .markup sections ((placementComment link poster placer).toList ++ rest) =
      ([.comment], Token.afterComment 0 false (commentContent link poster ++ rest)) := by
  have hname : '-' ∉ placer.name.toList := by cases placer <;> decide
  have hopening (s : List Char) :
      Token.next .markup sections ('<' :: '!' :: '-' :: '-' :: ' ' :: s) =
        ([.comment], Token.afterComment 0 false s) := rfl
  rw [toList_placementComment, List.append_assoc, List.cons_append, List.append_assoc,
    List.cons_append]
  refine (hopening _).trans ?_
  rw [Token.afterComment_of_forall (by decide) (not_infix_of_notMem_dash hname)]

variable {link poster}

/-- Where neither the address nor the title holds an end, the comment ends where it should. -/
theorem afterComment_commentContent
    (hhref : ∀ stop ∈ commentEnds, ¬ stop <:+: link.href.toList)
    (htitle : ∀ stop ∈ commentEnds, ¬ stop <:+: poster.video.item.title.toList)
    (rest : List Char) :
    Token.afterComment 0 false (commentContent link poster ++ rest) = rest := by
  have hnil := not_infix_of_notMem_dash (s := []) List.not_mem_nil
  simp only [commentContent, List.append_assoc, List.cons_append]
  rw [Token.afterComment_of_forall (by decide) hhref,
    Token.afterComment_of_forall (by decide) hnil,
    Token.afterComment_of_forall (by decide) htitle,
    Token.afterComment_of_forall (by decide) hnil]
  rfl

/-- Where the address or the title holds an end, a last part of the comment is left over. -/
theorem exists_afterComment_commentContent {stop : List Char} (hstop : stop ∈ commentEnds)
    (h : stop <:+: link.href.toList ∨ stop <:+: poster.video.item.title.toList)
    (rest : List Char) :
    ∃ left, left ≠ [] ∧ left <:+ commentContent link poster ∧
      Token.afterComment 0 false (commentContent link poster ++ rest) = left ++ rest := by
  obtain ⟨before, behind, hbehind, hcontent⟩ : ∃ before behind, behind ≠ [] ∧
      commentContent link poster = before ++ (stop ++ behind) := by
    -- the end stands in the address or in the title, with something of the comment behind it
    rcases h with ⟨before, behind, h⟩ | ⟨before, behind, h⟩
    · refine ⟨before, behind ++ ' ' :: ([] ++ '"' :: (poster.video.item.title.toList ++ '"' ::
        ([] ++ ' ' :: "-->".toList))), by simp, ?_⟩
      rw [commentContent, ← h, List.append_assoc, List.append_assoc]
    · refine ⟨link.href.toList ++ ' ' :: '"' :: before, behind ++ '"' :: ([] ++ ' ' ::
        "-->".toList), by simp, ?_⟩
      rw [commentContent, ← h]
      simp only [List.append_assoc, List.cons_append, List.nil_append]
  obtain ⟨left, ⟨skipped, hskipped⟩, hafter⟩ :=
    Token.exists_afterComment hstop before (behind ++ rest) 0 false
  refine ⟨left ++ behind, List.append_ne_nil_of_right_ne_nil _ hbehind, ⟨skipped, ?_⟩, ?_⟩
  · rw [hcontent, ← List.append_assoc, hskipped, List.append_assoc]
  · rw [hcontent, List.append_assoc, List.append_assoc, hafter, List.append_assoc]

variable (link poster)

/-- **Where the comment before a placed poster ends.**  Its last three characters end it, and
`-->` occurs in it once more for each time that it occurs in the address of the link or in the
title of the video.  A reader of pages takes all of it for one comment, whatever follows, just
if neither the address nor the title holds an end of a comment; if one of them does, a last part
of the comment is left over, and is read as markup. -/
theorem placementComment_ends :
    "-->".toList <:+ (placementComment link poster placer).toList ∧
    occurrences "-->".toList (placementComment link poster placer).toList =
      occurrences "-->".toList link.href.toList +
        occurrences "-->".toList poster.video.item.title.toList + 1 ∧
    ((∀ sections rest, Token.next .markup sections
        ((placementComment link poster placer).toList ++ rest) = ([.comment], rest)) ↔
      ∀ stop ∈ commentEnds, ¬ stop <:+: link.href.toList ∧
        ¬ stop <:+: poster.video.item.title.toList) ∧
    ((∃ stop ∈ commentEnds, stop <:+: link.href.toList ∨
        stop <:+: poster.video.item.title.toList) ↔
      ∀ sections rest, ∃ left, left ≠ [] ∧
        left <:+ (placementComment link poster placer).toList ∧
        Token.next .markup sections ((placementComment link poster placer).toList ++ rest) =
          ([.comment], left ++ rest)) := by
  have hsuffix : commentContent link poster <:+ (placementComment link poster placer).toList :=
    ⟨"<!--".toList ++ ' ' :: (placer.name.toList ++ [' ']), by simp [toList_placementComment]⟩
  have hends : "-->".toList <:+ commentContent link poster :=
    ⟨link.href.toList ++ ' ' :: '"' :: (poster.video.item.title.toList ++ ['"', ' ']), by
      simp [commentContent]⟩
  have hwhole (h : ∀ stop ∈ commentEnds, ¬ stop <:+: link.href.toList ∧
      ¬ stop <:+: poster.video.item.title.toList) (sections : Bool) (rest : List Char) :
      Token.next .markup sections ((placementComment link poster placer).toList ++ rest) =
        ([.comment], rest) := by
    rw [next_placementComment, afterComment_commentContent (fun stop hstop => (h stop hstop).1)
      fun stop hstop => (h stop hstop).2]
  have hcut {stop : List Char} (hstop : stop ∈ commentEnds)
      (h : stop <:+: link.href.toList ∨ stop <:+: poster.video.item.title.toList)
      (sections : Bool) (rest : List Char) :
      ∃ left, left ≠ [] ∧ left <:+ (placementComment link poster placer).toList ∧
        Token.next .markup sections ((placementComment link poster placer).toList ++ rest) =
          ([.comment], left ++ rest) := by
    obtain ⟨left, hne, hleft, hafter⟩ := exists_afterComment_commentContent hstop h rest
    exact ⟨left, hne, hleft.trans hsuffix, by rw [next_placementComment, hafter]⟩
  refine ⟨hends.trans hsuffix, occurrences_placementComment link poster placer,
    ⟨fun hall stop hstop => ?_, hwhole⟩, fun ⟨stop, hstop, h⟩ => hcut hstop h, fun hall => ?_⟩
  · -- a part that is left over would be nothing, since the whole was taken
    rw [← not_or]
    intro h
    obtain ⟨left, hne, -, hleft⟩ := hcut hstop h false []
    rw [hall, List.append_nil] at hleft
    exact hne (Prod.mk.inj hleft).2.symm
  · refine Classical.byContradiction fun hnone => ?_
    obtain ⟨left, hne, -, hleft⟩ := hall false []
    rw [hwhole fun stop hstop => not_or.1 fun h => hnone ⟨stop, hstop, h⟩,
      List.append_nil] at hleft
    exact hne (Prod.mk.inj hleft).2.symm

/-- Settings with a template of one letter. -/
def cutSettings : String :=
  "\x7b\"api_url\":\"http://a\",\"template\":\"P \",\"template_base_url\":\"http://a\"\x7d"

/-- Metadata of a video whose title ends a comment. -/
def cutReply : String :=
  "\x7b\"items\":[\x7b\"id\":\"a\",\"snippet\":\x7b\"title\":\"--><i>\"\x7d\x7d]\x7d"

/-- The comment of a poster of that video. -/
def cutComment : String := "<!-- appendToParent https://youtu.be/a?--><b> \"--><i>\" -->"

/-- The program run with a link to a video whose address ends a comment, as the title of the
video does.  The comment that is printed is ended three times, and a reader of pages takes what
stands behind the first of these ends for markup. -/
theorem placementComment_cut :
    (run ["--api-key", "k", "--config", "c", "https://youtu.be/a?--><b>"]
      ⟨fun _ => .ok cutSettings, fun _ => .ok cutSettings, fun _ => some ⟨200, cutReply⟩⟩).output =
        "a\thttps://youtu.be/a?--><b>\n" ++ cutComment ++ "\nP \n" ∧
    occurrences "-->".toList cutComment.toList = 3 ∧
    Token.next .markup false cutComment.toList = ([.comment], "<b> \"--><i>\" -->".toList) := by
  decide +kernel

end CommandLine

end VideoPosters
