import TreeLint.Proofs.Scaffold

/-! The nodes of a finished tree are numbered in document order, and all links agree with it. -/

namespace TreeLint.Tree

open Nested

variable {t : Tree}

namespace Nested

/-- What a node has, its children have. -/
def Inherited (P : Nested → Prop) : Prop :=
  ∀ {field? kind given? children}, P (.node field? kind given? children) →
    ∀ tree ∈ children, P tree

theorem WellKinded.inherited : Inherited WellKinded := by
  intro field? kind given? children kinds
  cases kinds with
  | node composite below => exact below

end Nested

mutual
theorem Stands.exists_at {P : Nested → Prop} (inherited : Inherited P) {parent? : Option Nat}
    {at_ place : Nat} : (tree : Nested) → Stands t parent? at_ tree → P tree → at_ ≤ place →
    place < at_ + tree.size → ∃ parent? below, Stands t parent? place below ∧ P below
  | .leaf .., stands, holds, after, before => by
      rw [Nested.size] at before
      have here : place = at_ := by omega
      subst here
      exact ⟨_, _, stands, holds⟩
  | .node _ _ _ children, stands, holds, after, before => by
      by_cases here : place = at_
      · subst here
        exact ⟨_, _, stands, holds⟩
      · rw [Nested.size] at before
        exact StandAll.exists_at inherited children stands.below (inherited holds) (by omega)
          (by omega)

theorem StandAll.exists_at {P : Nested → Prop} (inherited : Inherited P) {parent? : Option Nat}
    {at_ place : Nat} : (trees : List Nested) → StandAll t parent? at_ trees →
    (∀ tree ∈ trees, P tree) → at_ ≤ place → place < at_ + sizeAll trees →
    ∃ parent? below, Stands t parent? place below ∧ P below
  | [], _, _, after, before => absurd before (Nat.not_lt.2 after)
  | first :: rest, stand, holds, after, before => by
      rw [sizeAll] at before
      by_cases early : place < at_ + first.size
      · exact Stands.exists_at inherited first stand.first (holds first (List.mem_cons_self ..))
          after early
      · exact StandAll.exists_at inherited rest stand.rest
          (fun tree member => holds tree (List.mem_cons_of_mem _ member)) (by omega) (by omega)
end

mutual
theorem Stands.index_descendants {parent? : Option Nat} {n : t.Node} : (tree : Nested) →
    Stands t parent? n.index tree →
    n.descendants.map (·.index) = List.range' n.index tree.size
  | .leaf .., stands => by
      rw [n.descendants_eq, stands.children_leaf]
      rfl
  | .node _ _ _ children, stands => by
      rw [n.descendants_eq, List.map_cons,
        StandAll.index_descendants children stands.below stands.children, Nested.size,
        Nat.add_comm 1, List.range'_succ]

theorem StandAll.index_descendants {parent? : Option Nat} {at_ : Nat} {ns : List t.Node} :
    (trees : List Nested) → StandAll t parent? at_ trees → ns.map (·.index) = places at_ trees →
    (ns.flatMap Node.descendants).map (·.index) = List.range' at_ (sizeAll trees)
  | [], _, placed => by
      rw [List.map_eq_nil_iff.1 placed]
      rfl
  | first :: rest, stand, placed => by
      cases ns with
      | nil => cases placed
      | cons n ns =>
          obtain ⟨rfl, later⟩ := List.cons.inj placed
          rw [List.flatMap_cons, List.map_append, Stands.index_descendants first stand.first,
            StandAll.index_descendants rest stand.rest later, sizeAll, List.range'_append_1]
end

/-- What is true of the numbers and links of a finished tree. -/
structure WellNumbered (t : Tree) : Prop where
  orphan_iff : ∀ n : t.Node, n.parent? = none ↔ n.index = 0
  parent_before : ∀ n p : t.Node, n.parent? = some p → p.index < n.index
  listed_once : ∀ n p : t.Node, n.parent? = some p → p.children.count n = 1
  listed_by_parent : ∀ n p : t.Node, n ∈ p.children → n.parent? = some p
  ascending : ∀ n : t.Node, n.children.Pairwise fun a b => a.index < b.index
  token_iff : ∀ n : t.Node, n.token?.isSome ↔ n.kind.isToken
  leaf : ∀ n : t.Node, n.token?.isSome → n.children = []
  document_order : t.root.descendants.map (·.index) = List.range t.size

theorem WellNumbered.mem_children (numbered : WellNumbered t) {n p : t.Node}
    (parent : n.parent? = some p) : n ∈ p.children := by
  rw [← List.count_pos_iff, numbered.listed_once n p parent]
  exact Nat.one_pos

theorem WellNumbered.mem_descendants (numbered : WellNumbered t) (n : t.Node) :
    n ∈ t.root.descendants := by
  have place : n.index ∈ t.root.descendants.map (·.index) := by
    rw [numbered.document_order]
    exact List.mem_range.2 n.isLt
  obtain ⟨m, below, same⟩ := List.mem_map.1 place
  exact Node.index_injective same ▸ below

theorem WellNumbered.descendants_ascending (numbered : WellNumbered t) :
    t.root.descendants.Pairwise fun n m => n.index < m.index := by
  rw [← List.pairwise_map, numbered.document_order]
  exact List.pairwise_lt_range

namespace Stands

variable {parent? : Option Nat} {n : t.Node} {tree : Nested}

theorem parent_of_child (stands : Stands t parent? n.index tree) {c : t.Node}
    (member : c ∈ n.children) : c.parent? = some n := by
  cases tree with
  | leaf =>
      rw [stands.children_leaf] at member
      cases member
  | node field? kind given? children =>
      have placed : c.index ∈ places (n.index + 1) children :=
        stands.children ▸ List.mem_map_of_mem member
      obtain ⟨below, _, standsBelow⟩ := stands.below.exists_stands placed
      obtain ⟨p, parent, same⟩ := Option.map_eq_some_iff.1 standsBelow.parent?
      rw [parent, Node.index_injective same]

theorem ascending (stands : Stands t parent? n.index tree) :
    n.children.Pairwise fun a b => a.index < b.index := by
  cases tree with
  | leaf =>
      rw [stands.children_leaf]
      exact .nil
  | node field? kind given? children =>
      have sorted := places_ascending (n.index + 1) children
      rwa [← stands.children, List.pairwise_map] at sorted

theorem token_iff (stands : Stands t parent? n.index tree) (kinds : tree.WellKinded) :
    n.token?.isSome ↔ n.kind.isToken := by
  rw [Node.token?, Node.kind]
  cases kinds with
  | leaf token =>
      rw [stands.record_leaf]
      exact iff_of_true rfl token
  | node composite below =>
      rw [stands.record_node]
      exact iff_of_false nofun (Bool.eq_false_iff.1 composite)

theorem leaf (stands : Stands t parent? n.index tree) (token : n.token?.isSome) :
    n.children = [] := by
  cases tree with
  | leaf => exact stands.children_leaf
  | node =>
      rw [Node.token?, stands.record_node] at token
      cases token

end Stands

theorem Node.listed_of_mem_descendants {n m : t.Node} (member : m ∈ n.descendants) :
    m = n ∨ ∃ p : t.Node, m ∈ p.children := by
  induction n using induction_below with
  | step n ih =>
      rw [descendants_eq] at member
      rcases List.mem_cons.1 member with same | below
      · exact .inl same
      · obtain ⟨c, child, member⟩ := List.mem_flatMap.1 below
        rcases ih c child member with rfl | listed
        · exact .inr ⟨n, child⟩
        · exact .inr listed

/-- The tree has the records of one nested tree, whose kinds fit. -/
structure LaidOut (t : Tree) (tree : Nested) : Prop where
  records : t.nodes.toList = lay none 0 tree
  kinds : tree.WellKinded

namespace LaidOut

variable {tree : Nested}

theorem size (laid : LaidOut t tree) : t.size = tree.size := by
  rw [Tree.size, ← Array.length_toList, laid.records, length_lay]

theorem exists_stands_of (laid : LaidOut t tree) {P : Nested → Prop} (inherited : Inherited P)
    (holds : P tree) (n : t.Node) : ∃ parent? below, Stands t parent? n.index below ∧ P below := by
  refine (stands_root laid.records).exists_at inherited tree holds (Nat.zero_le _) ?_
  rw [← laid.size]
  exact (Nat.zero_add t.size).symm ▸ n.isLt

theorem exists_stands (laid : LaidOut t tree) (n : t.Node) :
    ∃ parent? below, Stands t parent? n.index below ∧ below.WellKinded :=
  laid.exists_stands_of WellKinded.inherited laid.kinds n

theorem document_order (laid : LaidOut t tree) :
    t.root.descendants.map (·.index) = List.range t.size := by
  rw [(stands_root laid.records).index_descendants, laid.size, List.range_eq_range']
  rfl

theorem parent_of_child (laid : LaidOut t tree) {p c : t.Node} (member : c ∈ p.children) :
    c.parent? = some p := by
  obtain ⟨_, _, here, _⟩ := laid.exists_stands p
  exact here.parent_of_child member

theorem ascending (laid : LaidOut t tree) (n : t.Node) :
    n.children.Pairwise fun a b => a.index < b.index := by
  obtain ⟨_, _, here, _⟩ := laid.exists_stands n
  exact here.ascending

theorem listed (laid : LaidOut t tree) (n : t.Node) :
    n = t.root ∨ ∃ p : t.Node, n ∈ p.children := by
  have member : n.index ∈ t.root.descendants.map (·.index) := by
    rw [laid.document_order]
    exact List.mem_range.2 n.isLt
  obtain ⟨m, below, same⟩ := List.mem_map.1 member
  exact Node.listed_of_mem_descendants (Node.index_injective same ▸ below)

theorem parent?_root (laid : LaidOut t tree) : t.root.parent? = none :=
  Option.map_eq_none_iff.1 (stands_root laid.records).parent?

theorem orphan_iff (laid : LaidOut t tree) (n : t.Node) : n.parent? = none ↔ n.index = 0 := by
  constructor
  · intro none
    rcases laid.listed n with rfl | ⟨p, member⟩
    · rfl
    · rw [laid.parent_of_child member] at none
      cases none
  · intro zero
    rw [show n = t.root from Node.index_injective zero]
    exact laid.parent?_root

theorem listed_once (laid : LaidOut t tree) {n p : t.Node} (parent : n.parent? = some p) :
    p.children.count n = 1 := by
  rcases laid.listed n with rfl | ⟨q, member⟩
  · rw [laid.parent?_root] at parent
    cases parent
  · rw [laid.parent_of_child member] at parent
    cases parent
    have distinct : p.children.Nodup := (laid.ascending p).imp fun before same =>
      Nat.ne_of_lt before (congrArg Node.index same)
    rw [distinct.count, if_pos member]

theorem wellNumbered (laid : LaidOut t tree) : WellNumbered t where
  orphan_iff := laid.orphan_iff
  parent_before := fun _ _ => Node.index_lt_of_parent?
  listed_once := fun _ _ => laid.listed_once
  listed_by_parent := fun _ _ => laid.parent_of_child
  ascending := laid.ascending
  token_iff := by
    intro n
    obtain ⟨_, _, here, kinds⟩ := laid.exists_stands n
    exact here.token_iff kinds
  leaf := by
    intro n
    obtain ⟨_, _, here, _⟩ := laid.exists_stands n
    exact here.leaf
  document_order := laid.document_order

end LaidOut

def stepsTaken (id : TreeId) (calls : List Builder.Call) : List Step :=
  Step.ofCalls none ((Builder.new id).succeeding calls)

/-- Calls in any order, some of them refused, still lay out one nested tree. -/
theorem exists_laidOut_settled {id : TreeId} {calls : List Builder.Call}
    (finished : ((Builder.new id).attemptAll calls).finish = .ok t) :
    ∃ root : Nested, stepsTaken id calls = root.steps ∧ LaidOut t (settle .empty root).1 := by
  obtain ⟨root, kinds, taken, records⟩ := exists_nested_of_finish finished
  exact ⟨root, taken, records, kinds.settle .empty⟩

theorem exists_laidOut {id : TreeId} {calls : List Builder.Call}
    (finished : ((Builder.new id).attemptAll calls).finish = .ok t) : ∃ tree, LaidOut t tree := by
  obtain ⟨_, _, laid⟩ := exists_laidOut_settled finished
  exact ⟨_, laid⟩

/-- Whatever is called in whatever order, a tree that is finished is numbered in document
order. -/
theorem wellNumbered_of_finish {id : TreeId} {calls : List Builder.Call}
    (finished : ((Builder.new id).attemptAll calls).finish = .ok t) : WellNumbered t := by
  obtain ⟨_, laid⟩ := exists_laidOut finished
  exact laid.wellNumbered

theorem strayCalls_wellNumbered :
    ∃ t, ((Builder.new ⟨0⟩).attemptAll Builder.strayCalls).finish = .ok t ∧
      t.size = 3 ∧ WellNumbered t := by
  obtain ⟨t, finished, nodes⟩ :=
    Builder.finish_of_closed (b := (Builder.new ⟨0⟩).attemptAll Builder.strayCalls) rfl (by decide)
  exact ⟨t, finished, congrArg Array.size nodes, wellNumbered_of_finish finished⟩

end TreeLint.Tree
