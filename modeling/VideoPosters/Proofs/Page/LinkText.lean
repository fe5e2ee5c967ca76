import Mathlib.Data.List.Chain
import Mathlib.Data.List.Forall2
import VideoPosters.Proofs.Page.Scanning
import VideoPosters.Proofs.Text.Words

/-!
# The text of a link

The text of a link is made of the words of the texts below its anchor, with a space between any two
of them.  Only the words count: which blanks stand between them and how many, whether a text starts
or ends with blanks, and whether there are texts of nothing but blanks makes no difference.  What
comes out has its words where a space stands, so that to make a text of it once more changes
nothing.

## Main definitions

* `Page.IsCollapsed` — whether blanks stand in a text only between words, one at a time.
* `Page.Respaced` — the changes to texts that concern nothing but blanks.

## Main results

* `Page.words_collapse` — the words of what is made of some texts are the words of the texts.
* `Page.isCollapsed_collapse`, `Page.collapse_collapse` — what is made of them is in order.
* `Page.collapse_eq_of_respaced` — nothing but the words counts.
* `Page.linkText_collapses` — **all of it, for the text of a link.**
-/

namespace VideoPosters.Page

open Html (Node IsListing)
open Text (isBlank words joinWith joinWith_cons_cons IsBlanks IsWord HasWords)

/-- Whether blanks stand in a text only between words, and there one space at a time. -/
structure IsCollapsed (s : List Char) : Prop where
  /-- It does not start with a blank. -/
  head : s.head?.any isBlank = false
  /-- Nor does it end with one. -/
  last : s.getLast?.any isBlank = false
  /-- No two blanks stand side by side. -/
  apart : s.IsChain fun c d => ¬ (isBlank c = true ∧ isBlank d = true)
  /-- Every blank is a space. -/
  space : ∀ c ∈ s, isBlank c = true → c = ' '

/-- The changes to some texts that concern nothing but blanks. -/
inductive Respaced : List (List Char) → List (List Char) → Prop where
  /-- Blanks inside a text are replaced by others. -/
  | within {before behind : List (List Char)} {s t gap gap' : List Char}
      (hne : gap ≠ []) (hgap : IsBlanks gap) (hne' : gap' ≠ []) (hgap' : IsBlanks gap') :
      Respaced (before ++ (s ++ gap ++ t) :: behind) (before ++ (s ++ gap' ++ t) :: behind)
  /-- Blanks are added at the ends of a text. -/
  | around {before behind : List (List Char)} {s gap gap' : List Char}
      (hgap : IsBlanks gap) (hgap' : IsBlanks gap') :
      Respaced (before ++ s :: behind) (before ++ (gap ++ s ++ gap') :: behind)
  /-- A text of nothing but blanks is added. -/
  | among {before behind : List (List Char)} {gap : List Char} (hgap : IsBlanks gap) :
      Respaced (before ++ behind) (before ++ gap :: behind)

section

variable {s t w : List Char} {ws texts texts' runs : List (List Char)}

/-! ### Words with spaces between them -/

theorem joinWith_eq_nil_iff {separator : List Char} (h : ∀ w ∈ ws, IsWord w) :
    joinWith separator ws = [] ↔ ws = [] := by
  constructor
  · intro hnil
    cases ws with
    | nil => rfl
    | cons w rest =>
      have hw : w ≠ [] := (h w List.mem_cons_self).1
      cases rest with
      | nil => exact absurd hnil hw
      | cons v rest =>
        rw [joinWith_cons_cons, List.append_assoc] at hnil
        exact absurd (List.append_eq_nil_iff.1 hnil).1 hw
  · rintro rfl
    rfl

/-- No character of a word is blank. -/
theorem isBlank_eq_false_of_isWord (hw : IsWord w) {c : Char} (hc : c ∈ w) : isBlank c = false := by
  have h := List.all_eq_true.1 hw.2 c hc
  simpa using h

theorem isCollapsed_nil : IsCollapsed [] := ⟨rfl, rfl, List.isChain_nil, by simp⟩

theorem isCollapsed_of_isWord (hw : IsWord w) : IsCollapsed w where
  head := by
    rw [Option.any_eq_false]
    intro c hc
    have hmem : c ∈ w := List.mem_of_head? hc
    simp [isBlank_eq_false_of_isWord hw hmem]
  last := by
    rw [Option.any_eq_false]
    intro c hc
    have hmem : c ∈ w := List.mem_of_getLast? hc
    simp [isBlank_eq_false_of_isWord hw hmem]
  apart := by
    refine List.Pairwise.isChain (List.pairwise_of_forall_mem_list ?_)
    intro c hc d hd h
    rw [isBlank_eq_false_of_isWord hw hc] at h
    exact absurd h.1 Bool.false_ne_true
  space c hc h := by
    rw [isBlank_eq_false_of_isWord hw hc] at h
    exact absurd h Bool.false_ne_true

/-- A space may be put between two texts. -/
theorem IsCollapsed.append_space (hs : IsCollapsed s) (ht : IsCollapsed t) (hsne : s ≠ [])
    (htne : t ≠ []) : IsCollapsed (s ++ [' '] ++ t) where
  head := by
    rw [List.append_assoc, List.head?_append_of_ne_nil _ hsne]
    exact hs.head
  last := by
    rw [List.getLast?_append_of_ne_nil _ htne]
    exact ht.last
  apart := by
    rw [List.append_assoc, List.isChain_append, List.isChain_append]
    have hlast := hs.last
    have hhead := ht.head
    -- next to the space that is put in there is no blank on either side
    refine ⟨hs.apart, ⟨List.isChain_singleton ' ', ht.apart, ?_⟩, ?_⟩
    · intro c hc d hd h
      rw [Option.mem_def.1 hd] at hhead
      exact absurd h.2 (by simpa using hhead)
    · intro c hc d hd h
      rw [Option.mem_def.1 hc] at hlast
      exact absurd h.1 (by simpa using hlast)
  space c hc h := by
    rw [List.mem_append, List.mem_append, List.mem_singleton] at hc
    obtain (hc | hc) | hc := hc
    · exact hs.space c hc h
    · exact hc
    · exact ht.space c hc h

theorem isCollapsed_joinWith (h : ∀ w ∈ ws, IsWord w) : IsCollapsed (joinWith [' '] ws) := by
  induction ws with
  | nil => exact isCollapsed_nil
  | cons w rest ih =>
    rw [List.forall_mem_cons] at h
    cases rest with
    | nil => exact isCollapsed_of_isWord h.1
    | cons v rest =>
      have hne : joinWith [' '] (v :: rest) ≠ [] := by
        rw [Ne, joinWith_eq_nil_iff h.2]
        exact List.cons_ne_nil v rest
      rw [joinWith_cons_cons]
      exact (isCollapsed_of_isWord h.1).append_space (ih h.2) h.1.1 hne

/-! ### What is made of some texts -/

theorem isWord_of_mem_flatMap (h : w ∈ texts.flatMap words) : IsWord w := by
  obtain ⟨s, -, hw⟩ := List.mem_flatMap.1 h
  exact Text.isWord_of_mem_words hw

/-- The words of what is made of some texts are the words of the texts. -/
theorem words_collapse (texts : List (List Char)) :
    words (collapse texts) = texts.flatMap words :=
  Text.words_joinWith rfl fun _ => isWord_of_mem_flatMap

/-- What is made of some texts has its blanks in order. -/
theorem isCollapsed_collapse (texts : List (List Char)) : IsCollapsed (collapse texts) :=
  isCollapsed_joinWith fun _ => isWord_of_mem_flatMap

/-- To make a text of it once more changes nothing. -/
theorem collapse_collapse (texts : List (List Char)) :
    collapse [collapse texts] = collapse texts := by
  rw [collapse, List.flatMap_singleton, words_collapse]
  rfl

theorem collapse_eq_nil_iff : collapse texts = [] ↔ ∀ s ∈ texts, IsBlanks s := by
  rw [collapse, joinWith_eq_nil_iff fun _ => isWord_of_mem_flatMap, List.flatMap_eq_nil_iff]
  simp only [Text.words_eq_nil_iff]

/-- The words of the texts with a space between any two of them. -/
theorem collapse_eq_iff : s = collapse texts ↔
    ∃ runs, List.Forall₂ HasWords texts runs ∧ s = joinWith [' '] runs.flatten := by
  -- each text has one list of words, so that nothing is to be chosen
  have hruns : ∀ runs, List.Forall₂ HasWords texts runs ↔ texts.map words = runs := by
    intro runs
    have hwords : HasWords = fun s ws => words s = ws := by
      funext s ws
      exact propext Text.hasWords_iff
    rw [hwords, ← List.forall₂_map_left_iff, List.forall₂_eq_eq_eq]
  simp only [hruns]
  constructor
  · rintro rfl
    exact ⟨texts.map words, rfl, by rw [collapse, List.flatMap_def]⟩
  · rintro ⟨runs, rfl, rfl⟩
    rw [collapse, List.flatMap_def]

/-- **Nothing but the words counts.** -/
theorem collapse_eq_of_respaced (h : Respaced texts texts') : collapse texts' = collapse texts := by
  have hwords : texts'.flatMap words = texts.flatMap words := by
    cases h with
    | within hne hgap hne' hgap' =>
      simp only [List.flatMap_append, List.flatMap_cons, Text.words_append_blanks_append hne hgap,
        Text.words_append_blanks_append hne' hgap']
    | around hgap hgap' =>
      simp only [List.flatMap_append, List.flatMap_cons, Text.words_append_blanks hgap',
        Text.words_blanks_append hgap]
    | among hgap =>
      simp only [List.flatMap_append, List.flatMap_cons, Text.words_of_isBlanks hgap,
        List.nil_append]
  rw [collapse, collapse, hwords]

/-! ### The text of a link -/

theorem linkText_eq_none_iff : linkText texts = none ↔ ∀ s ∈ texts, IsBlanks s := by
  rw [← collapse_eq_nil_iff, ← List.isEmpty_iff]
  unfold linkText
  split
  · next hempty => exact iff_of_true rfl hempty
  · next hempty => exact iff_of_false (fun h => nomatch h) hempty

/-- A no-break space and a line break are blanks, and so is what is empty. -/
example : linkText ["\u00A0\n".toList, []] = none := linkText_eq_none_iff.2 (by decide)

theorem collapse_ne_nil_iff : collapse texts ≠ [] ↔ ∃ s ∈ texts, ¬ IsBlanks s := by
  rw [Ne, collapse_eq_nil_iff]
  push Not
  rfl

theorem linkText_eq_some_iff {text : String} : linkText texts = some text ↔
    collapse texts ≠ [] ∧ text.toList = collapse texts := by
  rw [Ne, ← List.isEmpty_iff]
  unfold linkText
  split
  · next hempty => exact iff_of_false (fun h => nomatch h) fun h => h.1 hempty
  · next hempty =>
    constructor
    · intro h
      obtain rfl := Option.some.inj h
      exact ⟨hempty, String.toList_ofList⟩
    · rintro ⟨-, htext⟩
      rw [← htext, String.ofList_toList]

/-- The texts below an anchor are those from which the text of its link is made. -/
theorem linkOf?_of_isListing {anchor : Node} {href : String}
    (haddress : anchorAddress? anchor = some href)
    (htexts : IsListing anchor.children Node.ownText? texts) :
    linkOf? anchor = some ⟨href, linkText texts⟩ := by
  have hbelow : IsListing anchor.children Node.ownText? anchor.texts := by
    cases anchor with
    | text s => cases haddress
    | comment => cases haddress
    | element name attributes children => exact Html.isListing_texts children
  rw [linkOf?_eq, haddress, htexts.unique hbelow]
  rfl

/-- **The text of a link has its words with single spaces between them.**  There is none just if
all texts below the anchor are blank.  Otherwise it is made of the words of these texts in order,
neither starts nor ends with a blank, holds no two of them side by side, and makes itself when it
is taken for the only text.  It stays the same when blanks within a text are replaced by others,
when blanks are added at the ends of a text, and when texts of nothing but blanks are added.  That
is the text of the link which an anchor with an address is, whatever the texts below it. -/
theorem linkText_collapses (texts : List (List Char)) :
    (linkText texts = none ↔ ∀ s ∈ texts, IsBlanks s) ∧
    (∀ text, linkText texts = some text ↔
      (∃ s ∈ texts, ¬ IsBlanks s) ∧ ∃ runs, List.Forall₂ HasWords texts runs ∧
        text.toList = joinWith [' '] runs.flatten) ∧
    (∀ text, linkText texts = some text →
      IsCollapsed text.toList ∧ linkText [text.toList] = some text) ∧
    (∀ texts', Respaced texts texts' → linkText texts' = linkText texts) ∧
    ∀ anchor href, anchorAddress? anchor = some href →
      IsListing anchor.children Node.ownText? texts →
      linkOf? anchor = some ⟨href, linkText texts⟩ := by
  refine ⟨linkText_eq_none_iff, ?_, ?_, ?_, ?_⟩
  · intro text
    rw [linkText_eq_some_iff, collapse_ne_nil_iff, collapse_eq_iff]
  · intro text htext
    obtain ⟨hne, hcollapse⟩ := linkText_eq_some_iff.1 htext
    rw [linkText_eq_some_iff, hcollapse, collapse_collapse]
    exact ⟨isCollapsed_collapse texts, hne, rfl⟩
  · intro texts' hrespaced
    unfold linkText
    rw [collapse_eq_of_respaced hrespaced]
  · intro anchor href haddress htexts
    exact linkOf?_of_isListing haddress htexts

/-- An anchor whose first text breaks the line, and whose second one, in an element of its own, is
nothing but a no-break space and an ideographic space. -/
theorem linkText_collapses_line_break :
    let texts := [" A\n\t video".toList, "\u00A0\u3000".toList, "now".toList]
    let respaced := [" A video".toList, "\u00A0\u3000".toList, "now".toList]
    let anchor : Node := .element "a" [("href", "u")]
      [.text " A\n\t video", .element "b" [] [.text "\u00A0\u3000"], .text "now"]
    linkText texts = some "A video now" ∧ IsCollapsed "A video now".toList ∧
    linkText ["A video now".toList] = some "A video now" ∧
    Respaced texts respaced ∧ linkText respaced = linkText texts ∧
    anchorAddress? anchor = some "u" ∧ IsListing anchor.children Node.ownText? texts ∧
    linkOf? anchor = some ⟨"u", linkText texts⟩ := by
  intro texts respaced anchor
  obtain ⟨-, -, hcollapsed, hrespaced, hanchor⟩ := linkText_collapses texts
  have htext : linkText texts = some "A video now" := by decide +kernel
  have hchange : Respaced texts respaced :=
    @Respaced.within [] ["\u00A0\u3000".toList, "now".toList] " A".toList "video".toList
      "\n\t ".toList " ".toList (by decide) rfl (by decide) rfl
  have haddress : anchorAddress? anchor = some "u" := rfl
  have hlisting : IsListing anchor.children Node.ownText? texts :=
    Html.isListing_texts anchor.children
  exact ⟨htext, (hcollapsed _ htext).1, (hcollapsed _ htext).2, hchange, hrespaced _ hchange,
    haddress, hlisting, hanchor anchor "u" haddress hlisting⟩

end

end VideoPosters.Page
