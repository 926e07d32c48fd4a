import Mathlib.Data.List.Lex
import Mathlib.Logic.Function.Iterate
import SourceLint.Tree.Node

set_option autoImplicit false

/-!
# Walking a tree

A walk is a loop over a stack. In each round the node at the end of the stack is taken off and
visited, and its children are put in its place, from the last one to the first. Nothing in the loop
speaks of subtrees, and the children of different nodes lie on the stack side by side.

What the loop has still to do can be told from the stack alone: it visits the subtrees of the nodes
there, that of the top first, each in pre-order. A round takes the first node away from this list.
So the loop ends after as many rounds as the tree has nodes, and has then visited them in pre-order.

Nodes of one tree may be equal to each other, so a node is told apart by its address: the numbers of
the children that lead to it from the root. In pre-order every address of the tree has one place.
It stands behind the addresses of its ancestors, and behind all of a subtree to the left of it.

## Main definitions

* `WalkState.round` — one round of the loop.
* `Node.at?` — the node at an address.
* `Node.addresses` — the addresses of a tree, in pre-order.
* `Address.Precedes` — one address leads to an ancestor of another, or to the left of it.
* `Node.IsListing` — some nodes are all the nodes of a tree, in pre-order.

## Main results

* `WalkState.iterate_round_spec` — the loop after any number of rounds.
* `WalkState.stack_iterate_start_eq_nil_iff` — when the loop ends.
* `Node.isListing_preorder` — pre-order lists every node once, in the order of the addresses.
-/

namespace SourceLint

namespace Node

/-- A walk visits as many nodes as there are in the trees on its stack. -/
lemma length_visit (stack : List Node) : (visit stack).length = sizeAll stack := by
  fun_induction visit stack with
  | case1 => rfl
  | case2 node rest ih =>
    rw [List.length_cons, ih, sizeAll_append, sizeAll, size_eq]
    omega

/-- The walk visits as many nodes as there are. -/
lemma length_walk (root : Node) : root.walk.length = root.size := by
  rw [walk, length_visit, sizeAll, sizeAll, Nat.add_zero]

end Node

/-! ### The loop -/

/-- A walk under way: the nodes visited so far, and the stack of nodes still to visit, of which the
last one is on top. -/
structure WalkState where
  visited : List Node
  stack : List Node

namespace WalkState

/-- A walk that is about to begin. -/
def start (root : Node) : WalkState where
  visited := []
  stack := [root]

/-- One round of a walk: the node on top of the stack is visited, and gives way to its children in
reverse. When the stack is empty, the walk is over. -/
def round (state : WalkState) : WalkState :=
  match state.stack.getLast? with
  | none => state
  | some node =>
    { visited := state.visited ++ [node]
      stack := state.stack.dropLast ++ node.children.reverse }

/-- The nodes that a walk will still visit. -/
def remaining (state : WalkState) : List Node :=
  Node.visit state.stack.reverse

/-- A walk with nothing left stays as it is. -/
lemma round_of_stack_eq_nil {state : WalkState} (h : state.stack = []) : state.round = state := by
  rw [round, h, List.getLast?_nil]

/-- One round visits the node on top of the stack and puts its children there, the first one on top.
-/
lemma round_concat (visited stack : List Node) (node : Node) :
    round ⟨visited, stack ++ [node]⟩ = ⟨visited ++ [node], stack ++ node.children.reverse⟩ := by
  rw [round, List.getLast?_concat, List.dropLast_concat]

/-- What is left is told from the top of the stack: the node there, and then what is left when its
children have taken its place. -/
lemma remaining_concat (visited stack : List Node) (node : Node) :
    remaining ⟨visited, stack ++ [node]⟩ =
      node :: remaining ⟨visited ++ [node], stack ++ node.children.reverse⟩ := by
  simp only [remaining, List.reverse_append, List.reverse_singleton, List.singleton_append,
    List.reverse_reverse]
  rw [Node.visit]

/-- **A round** visits the first node that is left, and leaves the others. -/
lemma round_spec (state : WalkState) :
    state.round.visited = state.visited ++ state.remaining.take 1 ∧
      state.round.remaining = state.remaining.drop 1 := by
  obtain ⟨visited, stack⟩ := state
  rcases List.eq_nil_or_concat' stack with rfl | ⟨stack, node, rfl⟩
  · rw [round_of_stack_eq_nil rfl]
    simp [remaining, Node.visit]
  · rw [round_concat, remaining_concat]
    simp

/-- **A run** of so many rounds visits as many of the nodes that are left, and leaves the others.

**Proof sketch.** Induction on the rounds, with `round_spec` for the last one. -/
lemma iterate_round_spec (state : WalkState) (rounds : Nat) :
    (round^[rounds] state).visited = state.visited ++ state.remaining.take rounds ∧
      (round^[rounds] state).remaining = state.remaining.drop rounds := by
  induction rounds with
  | zero => simp
  | succ rounds ih =>
    obtain ⟨hvisited, hremaining⟩ := round_spec (round^[rounds] state)
    rw [Function.iterate_succ_apply', hvisited, hremaining, ih.1, ih.2]
    refine ⟨?_, List.drop_drop⟩
    rw [List.append_assoc, List.take_add]

/-- The walk is over when no node is left. -/
lemma remaining_eq_nil_iff (state : WalkState) : state.remaining = [] ↔ state.stack = [] := by
  obtain ⟨visited, stack⟩ := state
  rcases List.eq_nil_or_concat' stack with rfl | ⟨stack, node, rfl⟩
  · simp [remaining, Node.visit]
  · simp [remaining_concat]

/-- What remains at the start is the whole tree. -/
lemma remaining_start (root : Node) : (start root).remaining = root.walk :=
  rfl

/-- After so many rounds, a walk of a tree has visited as many of its nodes. -/
lemma visited_iterate_start (root : Node) (rounds : Nat) :
    (round^[rounds] (start root)).visited = root.walk.take rounds := by
  rw [(iterate_round_spec _ _).1, remaining_start, start, List.nil_append]

/-- **The loop ends** after as many rounds as the tree has nodes, and not before. -/
lemma stack_iterate_start_eq_nil_iff (root : Node) (rounds : Nat) :
    (round^[rounds] (start root)).stack = [] ↔ root.size ≤ rounds := by
  rw [← remaining_eq_nil_iff, (iterate_round_spec _ _).2, remaining_start,
    List.drop_eq_nil_iff, Node.length_walk]

end WalkState

/-! ### Addresses -/

/-- The way from the root of a tree to one of its nodes: the numbers of the children to step to. -/
abbrev Address := List Nat

/-- An address precedes another one: it leads to an ancestor of the other node, or to an earlier
child where the two ways part. -/
inductive Address.Precedes : Address → Address → Prop
  | ancestor (address : Address) (i : Nat) (rest : Address) :
      Precedes address (address ++ i :: rest)
  | sibling (address : Address) {i j : Nat} (rest rest' : Address) (h : i < j) :
      Precedes (address ++ i :: rest) (address ++ j :: rest')

namespace Address.Precedes

variable {a b : Address}

/-- Precedence below a node is precedence below its parent. -/
lemma cons (i : Nat) (h : Precedes a b) : Precedes (i :: a) (i :: b) := by
  cases h with
  | ancestor _ k rest => exact .ancestor (i :: a) k rest
  | sibling address rest rest' hlt => exact .sibling (i :: address) rest rest' hlt

/-- Precedence goes along with the lexicographic order. -/
lemma lt (h : Precedes a b) : a < b := by
  cases h with
  | ancestor _ i rest =>
    have hlt : a ++ [] < a ++ i :: rest := List.append_left_lt (List.nil_lt_cons i rest)
    rwa [List.append_nil] at hlt
  | sibling address rest rest' hlt =>
    exact List.append_left_lt (List.cons_lt_cons_iff.2 (.inl hlt))

/-- No address precedes itself. -/
lemma ne (h : Precedes a b) : a ≠ b :=
  h.lt.ne

/-- Two addresses do not each precede the other. -/
lemma asymm (h : Precedes a b) : ¬ Precedes b a :=
  fun h' => lt_asymm h.lt h'.lt

end Address.Precedes

namespace Node

/-- The node at an address. -/
def at? (root : Node) : Address → Option Node
  | [] => some root
  | i :: address => root.children[i]?.bind fun child => child.at? address

mutual

/-- The addresses of a tree, each before those below it, and these from left to right. -/
def addresses : Node → List Address
  | ⟨_, _, _, _, _, _, _, children⟩ => [] :: addressesFrom 0 children

/-- The addresses of several trees with consecutive numbers, one tree after the other. -/
def addressesFrom (i : Nat) : List Node → List Address
  | [] => []
  | node :: nodes => (addresses node).map (i :: ·) ++ addressesFrom (i + 1) nodes

end

/-- The addresses below children are those of each child, behind its place. -/
lemma addressesFrom_eq_flatMap (i : Nat) (nodes : List Node) :
    addressesFrom i nodes =
      (nodes.zipIdx i).flatMap fun child => child.1.addresses.map (child.2 :: ·) := by
  induction nodes generalizing i with
  | nil => rfl
  | cons node nodes ih => rw [addressesFrom, ih, List.zipIdx_cons, List.flatMap_cons]

/-- The addresses in a tree are that of its root and those below its children. -/
lemma addresses_eq (node : Node) :
    node.addresses =
      [] :: node.children.zipIdx.flatMap fun child => child.1.addresses.map (child.2 :: ·) := by
  cases node
  rw [addresses, addressesFrom_eq_flatMap]

/-- Induction over a tree: from the children of a node to the node. -/
@[elab_as_elim]
lemma inductionOn {motive : Node → Prop} (node : Node)
    (step : ∀ node : Node, (∀ child ∈ node.children, motive child) → motive node) :
    motive node :=
  step node fun child _ => inductionOn child step
termination_by sizeOf node
decreasing_by
  rename_i hchild
  cases node
  have := List.sizeOf_lt_of_mem hchild
  simp only [mk.sizeOf_spec] at this ⊢
  omega

/-- The addresses of a tree are those where there is a node. -/
lemma mem_addresses_iff {root : Node} {address : Address} :
    address ∈ root.addresses ↔ (root.at? address).isSome := by
  induction address generalizing root with
  | nil =>
    rw [addresses_eq]
    simp [at?]
  | cons i rest ih =>
    have hhere : i :: rest ∈ root.addresses ↔
        ∃ child, root.children[i]? = some child ∧ rest ∈ child.addresses := by
      rw [addresses_eq]
      simp [List.mem_zipIdx_iff_getElem?]
    rw [hhere, at?]
    cases root.children[i]? with
    | none => simp
    | some child => simp [ih]

/-- In pre-order stand the nodes at the addresses of a tree. -/
lemma map_some_preorder (root : Node) :
    root.preorder.map some = root.addresses.map root.at? := by
  induction root using inductionOn with
  | step root ih =>
    have hchild : ∀ child ∈ root.children.zipIdx,
        child.1.preorder.map some = (child.1.addresses.map (child.2 :: ·)).map root.at? := by
      intro child hmem
      rw [ih child.1 (List.fst_mem_of_mem_zipIdx hmem), List.map_map]
      apply List.map_congr_left
      intro address _
      simp [at?, List.mem_zipIdx_iff_getElem?.1 hmem]
    rw [preorder_eq, addresses_eq, List.map_cons, List.map_cons, at?, List.map_flatMap,
      List.map_flatMap, ← List.flatMap_congr hchild]
    conv_lhs => rw [← List.zipIdx_map_fst 0 root.children, List.flatMap_map]

/-- The addresses of a tree are in order. -/
lemma pairwise_addresses (root : Node) : root.addresses.Pairwise Address.Precedes := by
  induction root using inductionOn with
  | step root ih =>
    have hnumbers : root.children.zipIdx.Pairwise fun x y => x.2 < y.2 := by
      rw [← List.pairwise_map, List.zipIdx_map_snd]
      exact List.pairwise_lt_range'
    rw [addresses_eq, List.pairwise_cons, List.pairwise_flatMap]
    refine ⟨?_, ?_, hnumbers.imp ?_⟩
    · -- the root is an ancestor of what is below
      intro address haddress
      obtain ⟨child, -, hmem⟩ := List.mem_flatMap.1 haddress
      obtain ⟨rest, -, rfl⟩ := List.mem_map.1 hmem
      exact .ancestor [] child.2 rest
    · intro child hmem
      rw [List.pairwise_map]
      exact (ih child.1 (List.fst_mem_of_mem_zipIdx hmem)).imp (Address.Precedes.cons child.2)
    · -- two subtrees part at the root
      intro x y hlt a ha b hb
      obtain ⟨rest, -, rfl⟩ := List.mem_map.1 ha
      obtain ⟨rest', -, rfl⟩ := List.mem_map.1 hb
      exact .sibling [] rest rest' hlt

/-- Some nodes are the nodes of a tree in pre-order: they stand at some addresses, which are all
the addresses of the tree, each of them once, and in the order of precedence. -/
structure IsListing (root : Node) (nodes : List Node) (addresses : List Address) : Prop where
  /-- The nodes are those at the addresses. -/
  map_some_eq : nodes.map some = addresses.map root.at?
  /-- No node of the tree is missing. -/
  mem_iff : ∀ address, address ∈ addresses ↔ (root.at? address).isSome
  /-- No node is listed twice. -/
  nodup : addresses.Nodup
  /-- Ancestors come before descendants, and the subtree of a node before those of the siblings
  to its right. -/
  precedes_iff : ∀ a ∈ addresses, ∀ b ∈ addresses,
    a.Precedes b ↔ addresses.idxOf a < addresses.idxOf b

/-- **Pre-order lists every node once**, in the order of precedence.

**Proof sketch.** The addresses of a tree are pairwise in order (`pairwise_addresses`), and two
addresses cannot precede each other. So what precedes stands before. -/
lemma isListing_preorder (root : Node) : root.IsListing root.preorder root.addresses where
  map_some_eq := map_some_preorder root
  mem_iff _ := mem_addresses_iff
  nodup := (pairwise_addresses root).imp Address.Precedes.ne
  precedes_iff := by
    intro a ha b hb
    have hbefore : ∀ x ∈ root.addresses, ∀ y ∈ root.addresses,
        root.addresses.idxOf x < root.addresses.idxOf y → x.Precedes y := by
      intro x hx y hy hlt
      have h := List.pairwise_iff_getElem.1 (pairwise_addresses root) _ _
        (List.idxOf_lt_length_of_mem hx) (List.idxOf_lt_length_of_mem hy) hlt
      rwa [List.getElem_idxOf, List.getElem_idxOf] at h
    refine ⟨fun h => ?_, hbefore a ha b hb⟩
    rcases lt_trichotomy (root.addresses.idxOf a) (root.addresses.idxOf b) with hlt | heq | hgt
    · exact hlt
    · exact absurd ((List.idxOf_inj ha).1 heq) h.ne
    · exact absurd (hbefore b hb a ha hgt) h.asymm

end Node

end SourceLint
