import VideoPosters.Html.Tree
import VideoPosters.Proofs.Lists

/-!
# Tree order

A node of a tree is found by its address: which child to take at each step down.  Tree order is
the order of addresses, in which a node comes before what is below it, and that before the next
node beside it.  The lists of nodes and of texts that are made by going through a tree are in tree
order, and nothing is left out or listed twice.

## Main definitions

* `nodeAt?` — the node at an address.
* `IsListing` — whether results are those of the nodes of a tree, in tree order.
* `nodesOfAll` — all nodes of a tree in the order in which they are gone through.

## Main results

* `pairwise_addressesOfAll`, `mem_addressesOfAll_iff` — the addresses of a tree, in order.
* `isListing_filterMap` — **whatever is asked of each node in turn is a listing.**
* `isListing_texts` — so are the texts.
* `IsListing.unique` — there is one listing.
-/

namespace VideoPosters.Html

/-- The address of a node: the places of the children to take, from the top down. -/
abbrev Address := List Nat

/-- The nodes just below a node. -/
def Node.children : Node → List Node
  | .element _ _ children => children
  | _ => []

/-- The node at an address below a node. -/
def Node.at? (node : Node) : Address → Option Node
  | [] => some node
  | i :: address => node.children[i]?.bind (·.at? address)

/-- The node at an address of some trees. -/
def nodeAt? (nodes : List Node) : Address → Option Node
  | [] => none
  | i :: address => nodes[i]?.bind (·.at? address)

/-- Whether results are just those that the nodes of some trees have, in tree order. -/
def IsListing {α : Type} (nodes : List Node) (result? : Node → Option α) (results : List α) :
    Prop :=
  ∃ addresses : List Address, addresses.Pairwise (· < ·) ∧
    (∀ address, address ∈ addresses ↔
      ∃ node, nodeAt? nodes address = some node ∧ (result? node).isSome = true) ∧
    addresses.map (fun address => (nodeAt? nodes address).bind result?) = results.map some

/-! ### All nodes -/

mutual

/-- The nodes of a tree in the order in which they are gone through. -/
def Node.nodes : Node → List Node
  | .text s => [.text s]
  | .comment => [.comment]
  | .element name attributes children =>
    .element name attributes children :: nodesOfAll children

/-- The nodes of several trees in the order in which they are gone through. -/
def nodesOfAll : List Node → List Node
  | [] => []
  | node :: nodes => node.nodes ++ nodesOfAll nodes

end

/-- The address of a node once there is one more tree in front. -/
def shifted : Address → Address
  | [] => []
  | i :: address => (i + 1) :: address

theorem shifted_ne_zero (address below : Address) : shifted address ≠ 0 :: below := by
  cases address <;> simp [shifted]

theorem shifted_eq_succ_iff {address below : Address} {i : Nat} :
    shifted address = (i + 1) :: below ↔ address = i :: below := by
  cases address <;> simp [shifted]

theorem shifted_lt_shifted {a b : Address} (h : a < b) : shifted a < shifted b := by
  cases a with
  | nil =>
    cases b with
    | nil => exact absurd h (List.not_lt_nil [])
    | cons j b => exact List.nil_lt_cons (j + 1) b
  | cons i a =>
    cases b with
    | nil => exact absurd h (List.not_lt_nil _)
    | cons j b =>
      rw [List.cons_lt_cons_iff] at h
      rw [shifted, shifted, List.cons_lt_cons_iff]
      exact h.imp (by omega) fun ⟨hij, hab⟩ => ⟨by rw [hij], hab⟩

mutual

/-- The addresses of a node and of all that is below it. -/
def Node.addresses : Node → List Address
  | .text _ => [[]]
  | .comment => [[]]
  | .element _ _ children => [] :: addressesOfAll children

/-- The addresses of all nodes of several trees. -/
def addressesOfAll : List Node → List Address
  | [] => []
  | node :: nodes => node.addresses.map (0 :: ·) ++ (addressesOfAll nodes).map shifted

end

@[simp] theorem nodeAt?_nil (nodes : List Node) : nodeAt? nodes [] = none := rfl

@[simp] theorem nodeAt?_zero (node : Node) (nodes : List Node) (address : Address) :
    nodeAt? (node :: nodes) (0 :: address) = node.at? address := rfl

@[simp] theorem nodeAt?_shifted (node : Node) (nodes : List Node) (address : Address) :
    nodeAt? (node :: nodes) (shifted address) = nodeAt? nodes address := by
  cases address <;> rfl

theorem Node.at?_cons (node : Node) (i : Nat) (address : Address) :
    node.at? (i :: address) = nodeAt? node.children (i :: address) := rfl

/-! ### The addresses of a tree -/

theorem ne_nil_of_mem_addressesOfAll {address : Address} : ∀ {nodes : List Node},
    address ∈ addressesOfAll nodes → address ≠ []
  | [], h => nomatch h
  | node :: nodes, h => by
    rw [addressesOfAll, List.mem_append, List.mem_map, List.mem_map] at h
    rcases h with ⟨below, -, rfl⟩ | ⟨later, hlater, rfl⟩
    · exact List.cons_ne_nil 0 below
    · cases later with
      | nil => exact absurd rfl (ne_nil_of_mem_addressesOfAll hlater)
      | cons i below => exact List.cons_ne_nil (i + 1) below

mutual

/-- At the addresses of a tree there are its nodes. -/
theorem Node.map_at?_addresses : ∀ node : Node, node.addresses.map node.at? = node.nodes.map some
  | .text _ | .comment => rfl
  | .element name attributes children => by
    have hbelow : ∀ address ∈ addressesOfAll children,
        (Node.element name attributes children).at? address = nodeAt? children address := by
      intro address haddress
      cases address with
      | nil => exact absurd rfl (ne_nil_of_mem_addressesOfAll haddress)
      | cons i address => rfl
    rw [Node.addresses, Node.nodes, List.map_cons, List.map_cons, List.map_congr_left hbelow,
      map_nodeAt?_addressesOfAll, Node.at?]

/-- At the addresses of some trees there are their nodes. -/
theorem map_nodeAt?_addressesOfAll : ∀ nodes : List Node,
    (addressesOfAll nodes).map (nodeAt? nodes) = (nodesOfAll nodes).map some
  | [] => rfl
  | node :: nodes => by
    rw [addressesOfAll, nodesOfAll, List.map_append, List.map_append, ← node.map_at?_addresses,
      ← map_nodeAt?_addressesOfAll nodes, List.map_map, List.map_map]
    simp [Function.comp_def]

end

mutual

theorem Node.mem_addresses_iff : ∀ (node : Node) (address : Address),
    address ∈ node.addresses ↔ (node.at? address).isSome = true
  | .text _, address | .comment, address => by
    cases address <;> simp [Node.addresses, Node.at?, Node.children]
  | .element name attributes children, [] => by simp [Node.addresses, Node.at?]
  | .element name attributes children, i :: address => by
    have h := mem_addressesOfAll_iff children (i :: address)
    rw [Node.at?_cons, Node.children, ← h, Node.addresses]
    simp

/-- Whatever address has a node is among the addresses of the trees. -/
theorem mem_addressesOfAll_iff : ∀ (nodes : List Node) (address : Address),
    address ∈ addressesOfAll nodes ↔ (nodeAt? nodes address).isSome = true
  | [], address => by cases address <;> simp [addressesOfAll, nodeAt?]
  | node :: nodes, [] => by
    have hnil : [] ∉ addressesOfAll (node :: nodes) := fun h =>
      ne_nil_of_mem_addressesOfAll h rfl
    simpa using hnil
  | node :: nodes, 0 :: address => by
    rw [nodeAt?_zero, ← node.mem_addresses_iff, addressesOfAll, List.mem_append]
    simp [shifted_ne_zero]
  | node :: nodes, (i + 1) :: address => by
    have hnode := nodeAt?_shifted node nodes (i :: address)
    rw [shifted] at hnode
    rw [hnode, ← mem_addressesOfAll_iff nodes, addressesOfAll, List.mem_append]
    simp [shifted_eq_succ_iff]

end

mutual

theorem Node.pairwise_addresses : ∀ node : Node, node.addresses.Pairwise (· < ·)
  | .text _ | .comment => List.pairwise_singleton _ _
  | .element _ _ children => by
    rw [Node.addresses, List.pairwise_cons]
    refine ⟨fun address haddress => ?_, pairwise_addressesOfAll children⟩
    cases address with
    | nil => exact absurd rfl (ne_nil_of_mem_addressesOfAll haddress)
    | cons i below => exact List.nil_lt_cons i below

/-- The addresses of some trees are in order. -/
theorem pairwise_addressesOfAll : ∀ nodes : List Node, (addressesOfAll nodes).Pairwise (· < ·)
  | [] => List.Pairwise.nil
  | node :: nodes => by
    rw [addressesOfAll, List.pairwise_append, List.pairwise_map, List.pairwise_map]
    -- below the first node, below the others, and the first against the others
    refine ⟨node.pairwise_addresses.imp fun h => ?_,
      (pairwise_addressesOfAll nodes).imp shifted_lt_shifted, ?_⟩
    · exact List.cons_lt_cons_iff.2 (.inr ⟨rfl, h⟩)
    · intro first hfirst second hsecond
      obtain ⟨below, -, rfl⟩ := List.mem_map.1 hfirst
      obtain ⟨later, hlater, rfl⟩ := List.mem_map.1 hsecond
      cases later with
      | nil => exact absurd rfl (ne_nil_of_mem_addressesOfAll hlater)
      | cons i rest => exact List.cons_lt_cons_iff.2 (.inl (Nat.succ_pos i))

end

/-! ### Listings -/

section

variable {α : Type} {nodes : List Node} {result? : Node → Option α} {results : List α}

/-- A listing has what the addresses have, in the order of the addresses. -/
theorem isListing_iff : IsListing nodes result? results ↔
    ListsInOrder (fun address => (nodeAt? nodes address).bind result?) results := by
  have hmem : ∀ address, ((nodeAt? nodes address).bind result?).isSome = true ↔
      ∃ node, nodeAt? nodes address = some node ∧ (result? node).isSome = true := by
    intro address
    cases nodeAt? nodes address <;> simp
  simp only [IsListing, ListsInOrder, hmem]

/-- **Asking each node in turn gives a listing.** -/
theorem isListing_filterMap (nodes : List Node) (result? : Node → Option α) :
    IsListing nodes result? ((nodesOfAll nodes).filterMap result?) := by
  have hresults : (addressesOfAll nodes).filterMap
      (fun address => (nodeAt? nodes address).bind result?) =
        (nodesOfAll nodes).filterMap result? := by
    calc _ = ((addressesOfAll nodes).map (nodeAt? nodes)).filterMap (·.bind result?) :=
          (List.filterMap_map ..).symm
      _ = (nodesOfAll nodes).filterMap result? := by
          rw [map_nodeAt?_addressesOfAll, List.filterMap_map]
          rfl
  rw [isListing_iff, ← hresults]
  refine listsInOrder_filterMap (pairwise_addressesOfAll nodes) fun address hsome => ?_
  obtain ⟨result, hresult⟩ := Option.isSome_iff_exists.1 hsome
  obtain ⟨node, hnode, -⟩ := Option.bind_eq_some_iff.1 hresult
  exact (mem_addressesOfAll_iff nodes address).2 (by rw [hnode]; rfl)

/-- The results are determined. -/
theorem IsListing.unique {others : List α} (h : IsListing nodes result? results)
    (h' : IsListing nodes result? others) : results = others :=
  (isListing_iff.1 h).unique (isListing_iff.1 h')

end

/-- The text of a node that is one. -/
def Node.ownText? : Node → Option (List Char)
  | .text s => some s.toList
  | _ => none

mutual

theorem Node.texts_eq : ∀ node : Node, node.texts = node.nodes.filterMap Node.ownText?
  | .text _ | .comment => rfl
  | .element _ _ children => by
    rw [Node.texts, Node.nodes, textsOfAll_eq]
    rfl

theorem textsOfAll_eq : ∀ nodes : List Node,
    Node.textsOfAll nodes = (nodesOfAll nodes).filterMap Node.ownText?
  | [] => rfl
  | node :: nodes => by
    rw [Node.textsOfAll, nodesOfAll, node.texts_eq, textsOfAll_eq nodes, List.filterMap_append]

end

/-- The texts are listed in tree order. -/
theorem isListing_texts (nodes : List Node) :
    IsListing nodes Node.ownText? (Node.textsOfAll nodes) := by
  rw [textsOfAll_eq]
  exact isListing_filterMap nodes Node.ownText?

end VideoPosters.Html
