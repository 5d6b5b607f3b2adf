import TreeLint.Proofs.Numbering

/-! Up and down a tree: what is above a node, what is below it, and what it spells. -/

namespace TreeLint.Tree

variable {t : Tree}

namespace Node

variable {n m : t.Node}

theorem ancestors_of_parent? {p : t.Node} (parent : n.parent? = some p) :
    n.ancestors = p :: p.ancestors := by
  rw [ancestors]
  split
  next q other =>
    cases parent.symm.trans other
    rfl
  next orphan =>
    rw [parent] at orphan
    cases orphan

theorem ancestors_of_orphan (orphan : n.parent? = none) : n.ancestors = [] := by
  rw [ancestors]
  split
  next p parent =>
    rw [orphan] at parent
    cases parent
  next => rfl

theorem index_lt_of_mem_ancestors (member : m ∈ n.ancestors) : m.index < n.index := by
  induction n using ancestors.induct with
  | case1 n p parent ih =>
      rw [ancestors_of_parent? parent] at member
      have before := index_lt_of_parent? parent
      rcases List.mem_cons.1 member with rfl | above
      · exact before
      · exact Nat.lt_trans (ih above) before
  | case2 n orphan =>
      rw [ancestors_of_orphan orphan] at member
      cases member

theorem ancestors_descending (n : t.Node) :
    n.ancestors.Pairwise fun near far => far.index < near.index := by
  induction n using ancestors.induct with
  | case1 n p parent ih =>
      rw [ancestors_of_parent? parent]
      exact .cons (fun _ above => index_lt_of_mem_ancestors above) ih
  | case2 n orphan =>
      rw [ancestors_of_orphan orphan]
      exact .nil

theorem parent_mem_ancestors {p : t.Node} (member : m ∈ n.ancestors)
    (parent : m.parent? = some p) : p ∈ n.ancestors := by
  induction n using ancestors.induct with
  | case1 n q above ih =>
      rw [ancestors_of_parent? above] at member ⊢
      rcases List.mem_cons.1 member with rfl | further
      · rw [ancestors_of_parent? parent]
        exact List.mem_cons_of_mem _ (List.mem_cons_self ..)
      · exact List.mem_cons_of_mem _ (ih further)
  | case2 n orphan =>
      rw [ancestors_of_orphan orphan] at member
      cases member

theorem mem_descendants_of_mem_ancestors (numbered : WellNumbered t)
    (above : m ∈ n.ancestors) : n ∈ m.descendants := by
  induction n using ancestors.induct with
  | case1 n p parent ih =>
      have below : n ∈ p.descendants :=
        (children_sublist p).subset (numbered.mem_children parent)
      rw [ancestors_of_parent? parent] at above
      rcases List.mem_cons.1 above with rfl | above
      · exact below
      · exact (descendants_sublist (ih above)).subset below
  | case2 n orphan =>
      rw [ancestors_of_orphan orphan] at above
      cases above

theorem mem_ancestors_of_mem_descendants (numbered : WellNumbered t) (below : n ∈ m.descendants)
    (other : m ≠ n) : m ∈ n.ancestors := by
  induction m using induction_below with
  | step m ih =>
      rw [descendants_eq] at below
      rcases List.mem_cons.1 below with rfl | below
      · exact absurd rfl other
      · obtain ⟨c, child, below⟩ := List.mem_flatMap.1 below
        have parent := numbered.listed_by_parent c m child
        by_cases here : c = n
        · rw [← here, ancestors_of_parent? parent]
          exact List.mem_cons_self ..
        · exact parent_mem_ancestors (ih c child below here) parent

theorem getLast?_ancestors (numbered : WellNumbered t) (inner : n ≠ t.root) :
    n.ancestors.getLast? = some t.root := by
  induction n using ancestors.induct with
  | case1 n p parent ih =>
      rw [ancestors_of_parent? parent, List.getLast?_cons]
      by_cases top : p = t.root
      · rw [top, ancestors_of_orphan ((numbered.orphan_iff t.root).2 rfl)]
        rfl
      · rw [ih top]
        rfl
  | case2 n orphan => exact absurd (index_injective ((numbered.orphan_iff n).1 orphan)) inner

theorem join_text (ns : List t.Node) :
    String.join ((ns.flatMap tokens).map (·.text)) = String.join (ns.map text) := by
  induction ns with
  | nil => rfl
  | cons n rest ih =>
      rw [List.flatMap_cons, List.map_append, String.join_append, ih, List.map_cons,
        String.join_cons, text]

theorem text_of_not_isLeaf (composite : n.isLeaf = false) :
    n.text = String.join (n.children.map text) := by
  have own : n.token? = none := Option.not_isSome_iff_eq_none.1 (Bool.eq_false_iff.1 composite)
  rw [text, tokens, descendants_eq, List.filterMap_cons, own, List.filterMap_flatMap]
  exact join_text n.children

end Node

/-- How the walks over a tree and the spellings of its nodes go together. -/
structure Concordant (t : Tree) : Prop where
  consecutive : ∀ n : t.Node, ∃ count, 1 ≤ count ∧
    n.descendants.map (·.index) = List.range' n.index count
  above_iff : ∀ n m : t.Node, m ∈ n.ancestors ↔ m ≠ n ∧ n ∈ m.descendants
  descending : ∀ n : t.Node, n.ancestors.Pairwise fun near far => far.index < near.index
  root : t.root.ancestors = []
  topmost : ∀ n : t.Node, n ≠ t.root → n.ancestors.getLast? = some t.root
  spelled : ∀ n : t.Node, n.isLeaf = false → n.text = String.join (n.children.map Node.text)

theorem LaidOut.concordant {tree : Nested} (laid : LaidOut t tree) : Concordant t where
  consecutive := by
    intro n
    obtain ⟨_, below, here, _⟩ := laid.exists_stands n
    exact ⟨below.size, below.size_pos, here.index_descendants⟩
  above_iff := by
    intro n m
    constructor
    · intro above
      have before := Node.index_lt_of_mem_ancestors above
      refine ⟨?_, Node.mem_descendants_of_mem_ancestors laid.wellNumbered above⟩
      rintro rfl
      exact Nat.lt_irrefl _ before
    · rintro ⟨other, below⟩
      exact Node.mem_ancestors_of_mem_descendants laid.wellNumbered below other
  descending := Node.ancestors_descending
  root := Node.ancestors_of_orphan laid.parent?_root
  topmost := fun _ => Node.getLast?_ancestors laid.wellNumbered
  spelled := fun _ => Node.text_of_not_isLeaf

/-- In a tree that is finished the nodes below each node are numbered without a gap, a node is
above another exactly if the other is below it, and what a node spells is what its children
spell. -/
theorem concordant_of_finish {id : TreeId} {calls : List Builder.Call}
    (finished : ((Builder.new id).attemptAll calls).finish = .ok t) : Concordant t := by
  obtain ⟨_, laid⟩ := exists_laidOut finished
  exact laid.concordant

theorem strayCalls_concordant :
    ∃ t, ((Builder.new ⟨0⟩).attemptAll Builder.strayCalls).finish = .ok t ∧
      t.size = 3 ∧ Concordant t := by
  obtain ⟨t, finished, nodes⟩ :=
    Builder.finish_of_closed (b := (Builder.new ⟨0⟩).attemptAll Builder.strayCalls) rfl (by decide)
  exact ⟨t, finished, congrArg Array.size nodes, concordant_of_finish finished⟩

end TreeLint.Tree
