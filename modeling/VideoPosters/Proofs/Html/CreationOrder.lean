import VideoPosters.Html.Parse
import VideoPosters.Proofs.Html.TreeOrder

/-!
# Creation order

The nodes of a document are numbered in the order in which they are made, wherever they are put and
whatever is moved later.  A selection goes through the numbers.  So what is asked of each selected
element is listed in creation order, and of the elements that have a place none is left out: not
even those below a node that does not belong to the document any more.

Creation order is not tree order.  What does not belong in a table is put in front of the table, and
so in front of what was read before it.

## Main definitions

* `Draft.trees` — the trees below the document.

## Main results

* `Draft.listsInOrder_select` — **what is asked of each selected element is listed in creation
  order.**
-/

namespace VideoPosters.Html.Draft

/-- The trees below the document. -/
def trees (d : Draft) : List Node := d.toNodes d.size (d.children 0)

variable {d : Draft} {i : Nat} {node : Node}

/-- The elements that have a place. -/
theorem element?_eq_some_iff : d.element? i = some node ↔
    ∃ name attributes parent children,
      (d[i]? : Option Entry) = some ⟨.element name attributes, some parent, children⟩ ∧
        node = .element name attributes (d.toNodes d.size children) := by
  rw [element?]
  constructor
  · intro h
    split at h
    · next name attributes parent children hi =>
      exact ⟨name, attributes, parent, children, hi, (Option.some.inj h).symm⟩
    · cases h
  · rintro ⟨name, attributes, parent, children, hi, rfl⟩
    rw [hi]

/-- An element has the name of its entry, and its number is that of an entry. -/
theorem isNamed_of_element? (h : d.element? i = some node) :
    i < d.size ∧ ∀ name, d[i]?.any (Entry.isNamed name) = node.isNamed name := by
  obtain ⟨name, attributes, parent, children, hi, rfl⟩ := element?_eq_some_iff.1 h
  refine ⟨(Array.getElem?_eq_some_iff.1 hi).1, fun name' => ?_⟩
  rw [hi]
  rfl

/-- **What is asked of each selected element is listed in creation order**, as long as only
elements of the name have an answer. -/
theorem listsInOrder_select {α : Type} {result? : Node → Option α} {name : String}
    (h : ∀ node, (result? node).isSome = true → node.isNamed name = true) (d : Draft) :
    ListsInOrder (fun i => (d.element? i).bind result?) ((d.select name).filterMap result?) := by
  rw [select, List.filterMap_filterMap]
  -- the numbers grow, and it is left to show that every element with an answer is selected
  refine listsInOrder_filterMap (List.pairwise_lt_range.filter _) fun i hsome => ?_
  obtain ⟨result, hresult⟩ := Option.isSome_iff_exists.1 hsome
  obtain ⟨node, hnode, hresult⟩ := Option.bind_eq_some_iff.1 hresult
  obtain ⟨hlt, hname⟩ := isNamed_of_element? hnode
  rw [List.mem_filter, List.mem_range, hname]
  exact ⟨hlt, h node (by rw [hresult]; rfl)⟩

end VideoPosters.Html.Draft
