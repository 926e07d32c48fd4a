set_option autoImplicit false

/-!
# Syntax trees

A node of a syntax tree has a kind, a range of bytes in its source, the row and byte column where
it starts, possibly the name of the field that it fills in its parent, and children. Nodes that
stand for mere tokens are anonymous; all others are named. Nothing relates the ranges of different
nodes: they may overlap, be reversed or lie behind the end of the source.

Trees may be deep, so they are walked with an explicit stack of nodes still to visit.
`Node.preorder` is the same order by recursion on the tree.

## Main definitions

* `Node` — a node of a syntax tree, with its subtree.
* `Node.visit` — the nodes below those on a stack, in the order of a walk.
* `Node.walk` — the nodes of a tree, in the order of a walk.
* `Node.preorder` — each node before its children, and the children from left to right.

## Main results

* `Node.visit_eq_flatMap`, `Node.walk_eq_preorder` — a walk visits the nodes in pre-order.
-/

namespace SourceLint

/-- A node of a syntax tree, with its subtree. -/
structure Node where
  kind : String
  named : Bool
  /-- The first byte of the node. -/
  start : Nat
  /-- The byte behind the node. -/
  stop : Nat
  /-- The row where the node starts, counted from zero. -/
  row : Nat
  /-- The byte column where the node starts, counted from zero. -/
  column : Nat
  /-- The field that the node fills in its parent. -/
  field : Option String
  children : List Node
deriving Inhabited

namespace Node

/-- The named children of a node. -/
def namedChildren (node : Node) : List Node :=
  node.children.filter (·.named)

/-- The first child that fills a field. -/
def childOfField? (node : Node) (name : String) : Option Node :=
  node.children.find? (·.field == some name)

/-- The first child of a kind. -/
def childOfKind? (node : Node) (kind : String) : Option Node :=
  node.children.find? (·.kind == kind)

mutual

/-- The number of nodes of a tree. -/
def size : Node → Nat
  | ⟨_, _, _, _, _, _, _, children⟩ => sizeAll children + 1

/-- The number of nodes of several trees. -/
def sizeAll : List Node → Nat
  | [] => 0
  | node :: nodes => size node + sizeAll nodes

end

mutual

/-- The nodes of a tree, each before its children, and the children from left to right. -/
def preorder : Node → List Node
  | node@⟨_, _, _, _, _, _, _, children⟩ => node :: preorderAll children

/-- The nodes of several trees, one tree after the other. -/
def preorderAll : List Node → List Node
  | [] => []
  | node :: nodes => preorder node ++ preorderAll nodes

end

/-- A tree has one node more than there are below its root. -/
theorem size_eq (node : Node) : node.size = sizeAll node.children + 1 := by
  cases node
  rfl

/-- The size of trees in a row. -/
theorem sizeAll_append (xs ys : List Node) : sizeAll (xs ++ ys) = sizeAll xs + sizeAll ys := by
  induction xs with
  | nil => simp [sizeAll]
  | cons x xs ih => simp only [List.cons_append, sizeAll, ih]; omega

/-- The pre-order of trees in a row. -/
theorem preorderAll_eq_flatMap (nodes : List Node) : preorderAll nodes = nodes.flatMap preorder := by
  induction nodes with
  | nil => rfl
  | cons node nodes ih => rw [preorderAll, ih, List.flatMap_cons]

/-- In pre-order the root comes first, then each child with what is below it. -/
theorem preorder_eq (node : Node) :
    node.preorder = node :: node.children.flatMap preorder := by
  cases node
  rw [preorder, preorderAll_eq_flatMap]

/-- The nodes that a walk visits from a stack of nodes, the next one on top: a visited node is
replaced by its children. -/
def visit (stack : List Node) : List Node :=
  match stack with
  | [] => []
  | node :: rest => node :: visit (node.children ++ rest)
termination_by sizeAll stack
decreasing_by
  simp only [sizeAll_append, sizeAll, size_eq]
  omega

/-- The nodes of a tree, in the order of a walk. -/
def walk (root : Node) : List Node :=
  visit [root]

/-- A walk visits the trees of its stack one after the other, each in pre-order. -/
theorem visit_eq_flatMap (stack : List Node) : visit stack = stack.flatMap preorder := by
  fun_induction visit stack with
  | case1 => rfl
  | case2 node rest ih =>
    rw [ih, List.flatMap_append, List.flatMap_cons, preorder_eq, List.cons_append]

/-- A walk of a tree visits its nodes in pre-order. -/
theorem walk_eq_preorder (root : Node) : root.walk = root.preorder := by
  rw [walk, visit_eq_flatMap, List.flatMap_singleton]

end Node

end SourceLint
