import Instrumentation.Yaml.Token

set_option autoImplicit false

/-!
# Nodes

The tree that a text stands for. A node may carry an anchor, and an alias stands for the node with its
anchor. Anchors are numbered; where several nodes of a tree have one number, the last of them counts.
-/

namespace Instrumentation.Yaml

/-- A node of a text. -/
inductive Node where
  /-- A text without any document. -/
  | void
  | aliasOf (anchor : Nat)
  | scalar (style : ScalarStyle) (tag : Option String) (text : String)
  | sequence (tag : Option String) (items : List Node)
  | mapping (tag : Option String) (entries : List (Node × Node))
  | anchored (anchor : Nat) (node : Node)
deriving Inhabited

namespace Node

/-- The scalar that stands for a node that is left out. -/
def empty : Node := .scalar .plain none ""

mutual

/-- The anchored nodes of a tree in the order in which they begin. -/
def anchors : Node → List (Nat × Node)
  | void => []
  | aliasOf _ => []
  | scalar _ _ _ => []
  | sequence _ items => itemAnchors items
  | mapping _ entries => entryAnchors entries
  | anchored a n => (a, n) :: anchors n

/-- The anchored nodes of the items of a sequence. -/
def itemAnchors : List Node → List (Nat × Node)
  | [] => []
  | n :: ns => anchors n ++ itemAnchors ns

/-- The anchored nodes of the entries of a mapping. -/
def entryAnchors : List (Node × Node) → List (Nat × Node)
  | [] => []
  | (k, v) :: es => anchors k ++ anchors v ++ entryAnchors es

end

end Node

end Instrumentation.Yaml
