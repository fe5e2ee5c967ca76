import VideoPosters.Html.Token

/-!
# Trees of markup

A document is a tree of elements and texts.

## Main definitions

* `Html.Node` — the nodes of a tree.
* `Html.Node.texts` — the texts below a node, in tree order.
-/

namespace VideoPosters.Html

/-- A node of a tree.  The content of a comment is not kept. -/
inductive Node where
  | text (s : String)
  | comment
  | element (name : String) (attributes : List Attribute) (children : List Node)
  deriving Repr, Inhabited

namespace Node

mutual

/-- The texts of a tree in order. -/
def texts : Node → List (List Char)
  | .text s => [s.toList]
  | .comment => []
  | .element _ _ children => textsOfAll children

/-- The texts of several trees in order. -/
def textsOfAll : List Node → List (List Char)
  | [] => []
  | node :: nodes => texts node ++ textsOfAll nodes

end

/-- The value of an attribute of an element. -/
def attribute? (name : String) : Node → Option String
  | .element _ attributes _ => attributes.lookup name
  | _ => none

/-- Whether a node is an element of a name. -/
def isNamed (name : String) : Node → Bool
  | .element n _ _ => n = name
  | _ => false

end Node

end VideoPosters.Html
