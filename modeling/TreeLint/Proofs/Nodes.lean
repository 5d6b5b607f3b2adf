import TreeLint.Proofs.Blocks
import TreeLint.Tree.Basic

namespace TreeLint.Tree.Node

variable {t : Tree}

theorem induction_below {P : t.Node → Prop}
    (step : ∀ n : t.Node, (∀ c ∈ n.children, P c) → P n) (n : t.Node) : P n :=
  step n fun c member =>
    have := index_lt_of_mem_children member
    have := c.isLt
    induction_below step c
termination_by t.nodes.size - n.index

/-- A stack yields the nodes below its first entry before all others. -/
theorem unstack_eq (stack : List t.Node) : unstack stack = stack.flatMap preorder := by
  induction stack using unstack.induct with
  | case1 => rw [unstack, List.flatMap_nil]
  | case2 n rest ih =>
      rw [unstack, ih, List.flatMap_append, List.flatMap_cons, n.preorder_eq, List.cons_append]

theorem descendants_eq_preorder (n : t.Node) : n.descendants = n.preorder := by
  rw [descendants, unstack_eq, List.flatMap_singleton]

theorem descendants_eq (n : t.Node) :
    n.descendants = n :: n.children.flatMap descendants := by
  rw [descendants_eq_preorder, preorder_eq, funext descendants_eq_preorder]

theorem descendants_sublist {n m : t.Node} (member : m ∈ n.descendants) :
    m.descendants.Sublist n.descendants := by
  induction n using Node.induction_below with
  | step n ih =>
      rw [n.descendants_eq] at member ⊢
      rcases List.mem_cons.1 member with rfl | below
      · rw [m.descendants_eq]
      · obtain ⟨c, child, inside⟩ := List.mem_flatMap.1 below
        obtain ⟨before, after, split⟩ := List.append_of_mem child
        refine ((ih c child inside).trans ?_).cons n
        rw [split, List.flatMap_append, List.flatMap_cons]
        exact (List.sublist_append_left _ _).trans (List.sublist_append_right _ _)

theorem children_sublist (n : t.Node) : n.children.Sublist n.descendants := by
  rw [n.descendants_eq]
  exact (sublist_flatMap _ fun c _ => ⟨_, c.descendants_eq⟩).cons n

theorem index_injective : Function.Injective (index : t.Node → Nat) := by
  rintro ⟨i, _⟩ ⟨j, _⟩ same
  cases same
  rfl

@[simp] theorem map_index_children (n : t.Node) :
    n.children.map (·.index) = n.record.children.toList := by
  rw [children, List.map_map]
  exact List.attach_map_subtype_val _

@[simp] theorem map_index_parent? (n : t.Node) : n.parent?.map (·.index) = n.record.parent? := by
  unfold parent?
  split
  next linked => exact linked.symm
  next unlinked => exact unlinked.symm

end TreeLint.Tree.Node
