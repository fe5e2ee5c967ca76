import VideoPosters.Page
import VideoPosters.Proofs.Html.CreationOrder
import VideoPosters.Proofs.Json.Order
import VideoPosters.Proofs.Link.Grammar

/-!
# What is found on a page

A page is made from the elements of its document in one walk.  Its links are the anchors with an
address, one for each, and its templates are the scripts with an identifier whose type says so.
The walk goes through the elements in the order in which they were made, and leaves out only those
that have no place.  So that is the order of the links, and of several templates with one
identifier the one that was made last counts.  A script of another type is as good as not there.

Tree order is something else, and the page of a document need not be in tree order.

## Main definitions

* `Page.anchorAddress?` — the address of an anchor.
* `Page.IsTemplate` — the scripts that are templates with an identifier.
* `Page.IsContent` — whether a text is that of the texts below a node, in tree order.
* `Page.IsScan` — whether a page holds what is at the places of an order, and nothing else.

## Main results

* `Page.templateOf?_eq_some_iff` — which elements are taken for templates.
* `Page.isScan_ofDraft` — the page of some nodes holds what is among them.
* `Page.isScan_parse` — **so does the page of a document, in the order in which its elements were
  made.**
* `Page.not_isScan_nodeAt?` — but not in tree order.
-/

namespace VideoPosters.Page

open Html (Node Draft nodeAt? IsListing)

/-! ### What there is to be found -/

/-- The address of an anchor that has one. -/
def anchorAddress? : Node → Option String
  | .element "a" attributes _ => attributes.lookup "href"
  | _ => none

/-- Whether a type, without regard to case, says that a script is a template. -/
def IsTemplateType (kind : String) : Prop :=
  "template".toList <:+: kind.toList.map Char.toLower ∨
    kind.toList.map Char.toLower = "text/html".toList

/-- Whether a node is a script with an identifier that is a template. -/
def IsTemplate (id : String) (node : Node) : Prop :=
  ∃ attributes children kind, node = .element "script" attributes children ∧
    attributes.lookup "id" = some id ∧ attributes.lookup "type" = some kind ∧ IsTemplateType kind

/-- Whether a text is made of the texts below a node, one after the other. -/
def IsContent (node : Node) (text : String) : Prop :=
  ∃ pieces, IsListing node.children Node.ownText? pieces ∧ text = String.ofList pieces.flatten

/-- Whether a page holds what is at the places of an order, and nothing else. -/
structure IsScan {ι : Type} [LT ι] (node? : ι → Option Node) (page : Page) : Prop where
  /-- There is one link for each anchor with an address, in order. -/
  links : ListsInOrder (fun place => (node? place).bind anchorAddress?) (page.links.map Link.href)
  /-- The links to videos are those in whose addresses a shape finds an identifier. -/
  videoLinks : ∃ leadsToVideo : Link → Bool,
    (∀ link, leadsToVideo link = true ↔
      ∃ (shape : Link.Shape) (id : String), shape.capture? link.href = some id) ∧
    page.videoLinks = page.links.filter leadsToVideo
  /-- A template is found under its identifier if no later one has the same. -/
  template : ∀ id text, page.template? id = some text ↔
    ∃ place script, node? place = some script ∧ IsTemplate id script ∧ IsContent script text ∧
      ∀ later node, place < later → node? later = some node → ¬ IsTemplate id node
  /-- Nothing is found where there is no template. -/
  noTemplate : ∀ id, page.template? id = none ↔
    ∀ place node, node? place = some node → ¬ IsTemplate id node

/-! ### Links -/

theorem linkOf?_eq (node : Node) :
    linkOf? node = (anchorAddress? node).map fun href => ⟨href, linkText node.texts⟩ := by
  unfold anchorAddress?
  split
  · rfl
  · next hnode =>
    rw [linkOf?, if_neg, Option.map_none]
    cases node with
    | text s => exact Bool.false_ne_true
    | comment => exact Bool.false_ne_true
    | element name attributes children =>
      intro hname
      exact hnode attributes children (by rw [of_decide_eq_true hname])

theorem isNamed_of_linkOf? {node : Node} (h : (linkOf? node).isSome = true) :
    node.isNamed "a" = true := by
  rw [linkOf?] at h
  by_contra hname
  rw [if_neg hname] at h
  cases h

/-- One link is made of each anchor. -/
theorem listsInOrder_links (d : Draft) :
    ListsInOrder (fun i => (d.element? i).bind linkOf?) (ofDraft d).links :=
  Html.Draft.listsInOrder_select (fun _ => isNamed_of_linkOf?) d

/-- Each link has the address of its anchor. -/
theorem listsInOrder_href (d : Draft) :
    ListsInOrder (fun i => (d.element? i).bind anchorAddress?)
      ((ofDraft d).links.map Link.href) := by
  have haddress : ∀ node : Node, (linkOf? node).map Link.href = anchorAddress? node := by
    intro node
    rw [linkOf?_eq, Option.map_map]
    exact congrFun Option.map_id_fun' _
  simpa only [Option.map_bind, Function.comp_def, haddress] using
    (listsInOrder_links d).map Link.href

theorem isVideoLink_iff (link : Link) : link.isVideoLink = true ↔
    ∃ (shape : Link.Shape) (id : String), shape.capture? link.href = some id := by
  rw [Link.isVideoLink, Link.videoId?, Option.isSome_map, Option.isSome_iff_exists]
  constructor
  · rintro ⟨⟨shape, id⟩, hmatch⟩
    exact ⟨shape, id, (Link.matchFirst?_eq_some_iff.1 hmatch).2⟩
  · rintro ⟨shape, id, hcapture⟩
    exact ⟨(shape, id), Link.matchFirst?_eq_some_iff.2 ⟨shape.mem_all, hcapture⟩⟩

/-! ### Templates -/

theorem occursIn_iff {part : List Char} : ∀ {s : List Char},
    occursIn part s = true ↔ part <:+: s
  | [] => by rw [occursIn, List.isEmpty_iff, List.infix_nil]
  | c :: s => by
    rw [occursIn, Bool.or_eq_true, List.isPrefixOf_iff_prefix, occursIn_iff,
      List.infix_cons_iff]

theorem isTemplateType_iff {kind : String} : isTemplateType kind = true ↔ IsTemplateType kind := by
  rw [isTemplateType, IsTemplateType, Bool.or_eq_true, occursIn_iff, decide_eq_true_iff]

/-- An element is taken for a template just if it is one, and its text is the texts below it. -/
theorem templateOf?_eq_some_iff {node : Node} {id text : String} :
    templateOf? node = some (id, text) ↔
      IsTemplate id node ∧ text = String.ofList node.texts.flatten := by
  rw [templateOf?, Option.ite_none_right_eq_some, Option.map_eq_some_iff, Bool.and_eq_true,
    Option.any_eq_true]
  simp only [isTemplateType_iff, Prod.mk.injEq]
  cases node with
  | text s => simp [IsTemplate, Node.isNamed]
  | comment => simp [IsTemplate, Node.isNamed]
  | element name attributes children =>
    constructor
    · rintro ⟨⟨hname, kind, htype, hkind⟩, _, hid, rfl, rfl⟩
      obtain rfl : name = "script" := of_decide_eq_true hname
      exact ⟨⟨attributes, children, kind, rfl, hid, htype, hkind⟩, rfl⟩
    · rintro ⟨⟨attributes', children', kind, hnode, hid, htype, hkind⟩, rfl⟩
      obtain ⟨rfl, rfl, rfl⟩ := Node.element.inj hnode
      exact ⟨⟨rfl, kind, htype, hkind⟩, id, hid, rfl, rfl⟩

theorem IsTemplate.isNamed {id : String} {node : Node} (h : IsTemplate id node) :
    node.isNamed "script" = true := by
  obtain ⟨attributes, children, kind, rfl, -⟩ := h
  rfl

/-- The text of a node that is a template with an identifier. -/
def templateText? (id : String) (node : Node) : Option String :=
  ((templateOf? node).filter (·.1 = id)).map (·.2)

theorem templateText?_eq_some_iff {id text : String} {node : Node} :
    templateText? id node = some text ↔
      IsTemplate id node ∧ text = String.ofList node.texts.flatten := by
  rw [← templateOf?_eq_some_iff, templateText?, Option.map_eq_some_iff]
  constructor
  · rintro ⟨⟨_, _⟩, hfilter, rfl⟩
    obtain ⟨htemplate, hid⟩ := Option.filter_eq_some_iff.1 hfilter
    obtain rfl := of_decide_eq_true hid
    exact htemplate
  · intro htemplate
    exact ⟨(id, text), Option.filter_eq_some_iff.2 ⟨htemplate, decide_eq_true rfl⟩, rfl⟩

theorem templateText?_eq_none_iff {id : String} {node : Node} :
    templateText? id node = none ↔ ¬ IsTemplate id node := by
  rw [Option.eq_none_iff_forall_ne_some]
  constructor
  · exact fun h htemplate => h _ (templateText?_eq_some_iff.2 ⟨htemplate, rfl⟩)
  · exact fun h text htext => h (templateText?_eq_some_iff.1 htext).1

/-- The texts of the templates with an identifier. -/
theorem listsInOrder_templateText? (id : String) (d : Draft) :
    ListsInOrder (fun i => (d.element? i).bind (templateText? id))
      ((d.select "script").filterMap (templateText? id)) := by
  refine Html.Draft.listsInOrder_select (fun node hsome => ?_) d
  obtain ⟨text, htext⟩ := Option.isSome_iff_exists.1 hsome
  exact (templateText?_eq_some_iff.1 htext).1.isNamed

/-- Of the templates with an identifier the last one counts. -/
theorem template?_ofDraft (id : String) (d : Draft) :
    (ofDraft d).template? id = ((d.select "script").filterMap (templateText? id)).getLast? := by
  have htexts : (((d.select "script").filterMap templateOf?).filter (·.1 = id)).map (·.2) =
      (d.select "script").filterMap (templateText? id) := by
    rw [List.filter_filterMap, List.map_filterMap]
    rfl
  rw [template?, ofDraft, Entries.ofList, Entries.get?_insertAll_eq_getLast?, Entries.get?_nil,
    Option.or_none, ← List.getLast?_map, htexts]

/-- Where no template with an identifier is, no text of one is. -/
theorem bind_templateText?_eq_none_iff {id : String} {node? : Option Node} :
    node?.bind (templateText? id) = none ↔ ∀ node, node? = some node → ¬ IsTemplate id node := by
  rw [Option.bind_eq_none_iff]
  simp only [templateText?_eq_none_iff]

/-- The text of an element is that of the texts below it. -/
theorem isContent_iff {attributes : List Html.Attribute} {name text : String}
    {children : List Node} :
    IsContent (.element name attributes children) text ↔
      text = String.ofList (Node.element name attributes children).texts.flatten := by
  have htexts : IsListing children Node.ownText? (Node.element name attributes children).texts :=
    Html.isListing_texts children
  constructor
  · rintro ⟨pieces, hpieces, rfl⟩
    rw [htexts.unique hpieces]
  · rintro rfl
    exact ⟨_, htexts, rfl⟩

theorem IsTemplate.isContent_iff {id text : String} {node : Node} (h : IsTemplate id node) :
    IsContent node text ↔ text = String.ofList node.texts.flatten := by
  obtain ⟨attributes, children, kind, rfl, -⟩ := h
  exact Page.isContent_iff

/-! ### Pages -/

/-- The page of some nodes holds what is among them, and nothing else. -/
theorem isScan_ofDraft (d : Draft) : IsScan d.element? (ofDraft d) where
  links := listsInOrder_href d
  videoLinks := ⟨Link.isVideoLink, isVideoLink_iff, rfl⟩
  template id text := by
    -- the last of the texts is that of a place behind which there is none
    rw [template?_ofDraft, (listsInOrder_templateText? id d).getLast?_eq_some_iff]
    simp only [bind_templateText?_eq_none_iff, Option.bind_eq_some_iff, templateText?_eq_some_iff]
    constructor
    · rintro ⟨i, ⟨script, hscript, htemplate, htext⟩, hlater⟩
      exact ⟨i, script, hscript, htemplate, htemplate.isContent_iff.2 htext,
        fun later node hlt => hlater later hlt node⟩
    · rintro ⟨i, script, hscript, htemplate, htext, hlater⟩
      exact ⟨i, ⟨script, hscript, htemplate, htemplate.isContent_iff.1 htext⟩,
        fun later hlt node => hlater later node hlt⟩
  noTemplate id := by
    rw [template?_ofDraft, List.getLast?_eq_none_iff, (listsInOrder_templateText? id d).eq_nil_iff]
    simp only [bind_templateText?_eq_none_iff]

/-- **The page of a document holds what is among its elements, and nothing else**, and so does the
page of any nodes: the links are the anchors with an address that have a place, in the order in
which they were made; those of them that lead to videos are kept among the links to videos, and no
others; and under an identifier there is the text of the script that was made last of those that
have a place, that have the identifier and that are templates by their types. -/
theorem isScan_parse : (∀ d : Draft, IsScan d.element? (ofDraft d)) ∧
    ∀ document, IsScan (Html.read document).element? (parse document) :=
  ⟨isScan_ofDraft, fun document => isScan_ofDraft (Html.read document)⟩

/-- **The page of a document need not be in tree order.**  The second link and the second template
of a page do not belong in its table, so they are put in front of it, and stand before the others in
the tree.  And a link is found even though the body in which it stands has been replaced by a
frameset. -/
theorem not_isScan_nodeAt? :
    let page := "<table><td><a href=x></a><script id=t type=text/html>A</script></td>" ++
      "<b><a href=y></a><script id=t type=text/html>B</script></b></table>"
    let trees := (Html.read page).trees
    let framed := "<a href=x></a><frameset>"
    ¬ IsScan (nodeAt? trees) (parse page) ∧
    (parse page).links.map Link.href = ["x", "y"] ∧
    IsListing trees anchorAddress? ["y", "x"] ∧
    (parse page).template? "t" = some "B" ∧
    (nodeAt? trees [0, 1, 0, 1]).bind (templateText? "t") = some "B" ∧
    (nodeAt? trees [0, 1, 1, 0, 0, 0, 1]).bind (templateText? "t") = some "A" ∧
    ¬ IsScan (nodeAt? (Html.read framed).trees) (parse framed) ∧
    (parse framed).links.map Link.href = ["x"] ∧
    IsListing (Html.read framed).trees anchorAddress? [] := by
  intro page trees framed
  -- all that is asked of one page is decided at once, so that the page is read once
  have hpage : (parse page).links.map Link.href = ["x", "y"] ∧ (parse page).template? "t" = some "B" ∧
      (Html.nodesOfAll trees).filterMap anchorAddress? = ["y", "x"] ∧
      (nodeAt? trees [0, 1, 0, 1]).bind (templateText? "t") = some "B" ∧
      (nodeAt? trees [0, 1, 1, 0, 0, 0, 1]).bind (templateText? "t") = some "A" := by
    decide +kernel
  have hframed : (parse framed).links.map Link.href = ["x"] ∧
      (Html.nodesOfAll (Html.read framed).trees).filterMap anchorAddress? = [] := by
    decide +kernel
  obtain ⟨hlinks, htemplate, hfound, hfirst, hsecond⟩ := hpage
  obtain ⟨hlink, hnone⟩ := hframed
  have hlisting : IsListing trees anchorAddress? ["y", "x"] :=
    hfound ▸ Html.isListing_filterMap trees anchorAddress?
  have hnothing : IsListing (Html.read framed).trees anchorAddress? [] :=
    hnone ▸ Html.isListing_filterMap (Html.read framed).trees anchorAddress?
  refine ⟨fun h => ?_, hlinks, hlisting, htemplate, hfirst, hsecond, fun h => ?_, hlink, hnothing⟩
  · have hsame := h.links.unique (Html.isListing_iff.1 hlisting)
    rw [hlinks] at hsame
    exact absurd hsame (by decide)
  · have hsame := h.links.unique (Html.isListing_iff.1 hnothing)
    rw [hlink] at hsame
    cases hsame

/-- A script of another type neither is a template nor hides one. -/
example : (parse ("<script id=t type=text/TEMPLATE>a</script>" ++
    "<script id=t type=text/javascript>b</script>")).template? "t" = some "a" := by
  decide +kernel

end VideoPosters.Page
