import TreeLint.Proofs.Nodes
import TreeLint.Tree.Nested

/-! The records of a nested tree, each node right before all below it, and what is read off nodes
that stand on such records. -/

namespace TreeLint.Tree

namespace Nested

mutual
def size : Nested → Nat
  | leaf .. => 1
  | node _ _ _ children => 1 + sizeAll children

def sizeAll : List Nested → Nat
  | [] => 0
  | first :: rest => size first + sizeAll rest
end

theorem size_pos (tree : Nested) : 0 < tree.size := by
  cases tree with
  | leaf => exact Nat.one_pos
  | node => simp only [size]; omega

def span : Nested → Span
  | leaf _ _ _ _ span => span
  | node _ _ given? _ => (given?.map (·.2)).getD .empty

/-- The span that comes from a node's children or else, without children, from the last token
before the node. -/
def spanAround (last : Span) (children : List Nested) : Span :=
  match children.head?.map span, children.getLast?.map span with
  | some first, some final => first.cover final
  | _, _ => last.endPoint

mutual
/-- The tree with all names and spans filled in when it comes after the given token, and the span
of the last token of the two. -/
def settle (last : Span) : Nested → Nested × Span
  | leaf field? kind rawKind? text span =>
      (leaf field? kind (some (rawKind?.getD kind.name)) text span, span)
  | node field? kind given? children =>
      let (children, last) := settleAll last children
      (node field? kind (some (given?.getD (kind.name, spanAround last children))) children, last)

def settleAll (last : Span) : List Nested → List Nested × Span
  | [] => ([], last)
  | first :: rest =>
      let (first, last) := settle last first
      let (rest, last) := settleAll last rest
      (first :: rest, last)
end

@[simp] theorem settleAll_concat (last : Span) (front : List Nested) (tree : Nested) :
    settleAll last (front ++ [tree]) =
      ((settleAll last front).1 ++ [(settle (settleAll last front).2 tree).1],
        (settle (settleAll last front).2 tree).2) := by
  induction front generalizing last with
  | nil => rfl
  | cons first rest ih => simp only [List.cons_append, settleAll, ih]

mutual
theorem size_settle (last : Span) : (tree : Nested) → (settle last tree).1.size = tree.size
  | leaf .. => rfl
  | node _ _ _ children => congrArg (1 + ·) (sizeAll_settleAll last children)

theorem sizeAll_settleAll (last : Span) :
    (trees : List Nested) → sizeAll (settleAll last trees).1 = sizeAll trees
  | [] => rfl
  | first :: rest => by
      simp only [settleAll, sizeAll, size_settle last first, sizeAll_settleAll _ rest]
end

/-- Where trees stand that follow each other from a place on. -/
def places (at_ : Nat) : List Nested → List Nat
  | [] => []
  | first :: rest => at_ :: places (at_ + first.size) rest

theorem places_concat (at_ : Nat) (front : List Nested) (tree : Nested) :
    places at_ (front ++ [tree]) = places at_ front ++ [at_ + sizeAll front] := by
  induction front generalizing at_ with
  | nil => rfl
  | cons first rest ih => simp only [List.cons_append, places, ih, sizeAll, Nat.add_assoc]

@[simp] theorem places_settleAll (at_ : Nat) (last : Span) (trees : List Nested) :
    places at_ (settleAll last trees).1 = places at_ trees := by
  induction trees generalizing at_ last with
  | nil => rfl
  | cons first rest ih => simp only [settleAll, places, size_settle, ih]

def composite (parent? : Option Nat) (field? : Option String) (kind : Kind)
    (given? : Option (String × Span)) (children : List Nat) : NodeRecord where
  kind
  rawKind := (given?.map (·.1)).getD kind.name
  field?
  parent?
  children := children.toArray
  token? := none
  span := (given?.map (·.2)).getD .empty

mutual
/-- The records of a tree that stands at a place below the given parent. -/
def lay (parent? : Option Nat) (at_ : Nat) : Nested → List NodeRecord
  | leaf field? kind rawKind? text span =>
      [⟨kind, rawKind?.getD kind.name, field?, parent?, #[], some ⟨text, span⟩, span⟩]
  | node field? kind given? children =>
      composite parent? field? kind given? (places (at_ + 1) children) ::
        layAll (some at_) (at_ + 1) children

def layAll (parent? : Option Nat) (at_ : Nat) : List Nested → List NodeRecord
  | [] => []
  | first :: rest => lay parent? at_ first ++ layAll parent? (at_ + size first) rest
end

@[simp] theorem layAll_concat (parent? : Option Nat) (at_ : Nat) (front : List Nested)
    (tree : Nested) :
    layAll parent? at_ (front ++ [tree]) =
      layAll parent? at_ front ++ lay parent? (at_ + sizeAll front) tree := by
  induction front generalizing at_ with
  | nil => simp only [List.nil_append, layAll, List.append_nil, sizeAll, Nat.add_zero]
  | cons first rest ih =>
      simp only [List.cons_append, layAll, ih, sizeAll, List.append_assoc, Nat.add_assoc]

mutual
theorem length_lay (parent? : Option Nat) (at_ : Nat) :
    (tree : Nested) → (lay parent? at_ tree).length = tree.size
  | leaf .. => rfl
  | node _ _ _ children => by
      rw [lay, List.length_cons, length_layAll, size, Nat.add_comm]

theorem length_layAll (parent? : Option Nat) (at_ : Nat) :
    (trees : List Nested) → (layAll parent? at_ trees).length = sizeAll trees
  | [] => rfl
  | first :: rest => by rw [layAll, List.length_append, length_lay, length_layAll, sizeAll]
end

theorem exists_lay_eq_cons (parent? : Option Nat) (at_ : Nat) (tree : Nested) :
    ∃ r rest, lay parent? at_ tree = r :: rest ∧ r.span = tree.span := by
  cases tree with
  | leaf => exact ⟨_, [], rfl, rfl⟩
  | node => exact ⟨_, _, rfl, rfl⟩

theorem spans_at_places {records back : List NodeRecord} {parent? : Option Nat} :
    (trees : List Nested) → (front : List NodeRecord) →
    records = front ++ layAll parent? front.length trees ++ back →
    (places front.length trees).map (fun place => records[place]?.map (·.span)) =
      trees.map fun tree => some tree.span
  | [], _, _ => rfl
  | first :: rest, front, laid => by
      obtain ⟨r, below, head, span⟩ := exists_lay_eq_cons parent? front.length first
      have longer :
          (front ++ lay parent? front.length first).length = front.length + first.size := by
        rw [List.length_append, length_lay]
      have later : records = (front ++ lay parent? front.length first) ++
          layAll parent? (front ++ lay parent? front.length first).length rest ++ back := by
        rw [laid, longer, layAll]
        simp only [List.append_assoc]
      have tail := spans_at_places rest _ later
      have here : records[front.length]?.map (·.span) = some first.span := by
        rw [laid, layAll, head]
        simp [span]
      rw [longer] at tail
      simp only [places, List.map_cons, here, tail]

theorem le_of_mem_places {at_ place : Nat} {trees : List Nested}
    (member : place ∈ places at_ trees) : at_ ≤ place := by
  induction trees generalizing at_ with
  | nil => cases member
  | cons first rest ih =>
      rcases List.mem_cons.1 member with rfl | later
      · exact Nat.le_refl _
      · have := ih later
        omega

theorem places_ascending (at_ : Nat) (trees : List Nested) :
    (places at_ trees).Pairwise (· < ·) := by
  induction trees generalizing at_ with
  | nil => exact .nil
  | cons first rest ih =>
      refine .cons (fun place member => ?_) (ih _)
      have := le_of_mem_places member
      have := first.size_pos
      omega

end Nested

variable {t : Tree}

/-- The records from a place on are those of a nested tree below the given parent. -/
def Stands (t : Tree) (parent? : Option Nat) (at_ : Nat) (tree : Nested) : Prop :=
  ∃ front back, t.nodes.toList = front ++ Nested.lay parent? at_ tree ++ back ∧ front.length = at_

def StandAll (t : Tree) (parent? : Option Nat) (at_ : Nat) (trees : List Nested) : Prop :=
  ∃ front back,
    t.nodes.toList = front ++ Nested.layAll parent? at_ trees ++ back ∧ front.length = at_

theorem stands_root {tree : Nested} (records : t.nodes.toList = Nested.lay none 0 tree) :
    Stands t none t.root.index tree :=
  ⟨[], [], by rw [records, List.nil_append, List.append_nil]; rfl, rfl⟩

theorem StandAll.first {parent? : Option Nat} {at_ : Nat} {tree : Nested} {rest : List Nested}
    (stand : StandAll t parent? at_ (tree :: rest)) : Stands t parent? at_ tree := by
  obtain ⟨front, back, nodes, length⟩ := stand
  refine ⟨front, Nested.layAll parent? (at_ + tree.size) rest ++ back, ?_, length⟩
  rw [nodes, Nested.layAll]
  simp only [List.append_assoc]

theorem StandAll.rest {parent? : Option Nat} {at_ : Nat} {tree : Nested} {rest : List Nested}
    (stand : StandAll t parent? at_ (tree :: rest)) :
    StandAll t parent? (at_ + tree.size) rest := by
  obtain ⟨front, back, nodes, length⟩ := stand
  refine ⟨front ++ Nested.lay parent? at_ tree, back, ?_, ?_⟩
  · rw [nodes, Nested.layAll]
    simp only [List.append_assoc]
  · rw [List.length_append, length, Nested.length_lay]

theorem StandAll.exists_stands {parent? : Option Nat} {at_ place : Nat} {trees : List Nested}
    (stand : StandAll t parent? at_ trees) (member : place ∈ Nested.places at_ trees) :
    ∃ tree ∈ trees, Stands t parent? place tree := by
  induction trees generalizing at_ with
  | nil => cases member
  | cons tree rest ih =>
      rcases List.mem_cons.1 member with rfl | later
      · exact ⟨tree, List.mem_cons_self .., stand.first⟩
      · obtain ⟨other, among, stands⟩ := ih stand.rest later
        exact ⟨other, List.mem_cons_of_mem _ among, stands⟩

theorem Stands.below {parent? : Option Nat} {at_ : Nat} {field? : Option String} {kind : Kind}
    {given? : Option (String × Span)} {children : List Nested}
    (stands : Stands t parent? at_ (.node field? kind given? children)) :
    StandAll t (some at_) (at_ + 1) children := by
  obtain ⟨front, back, nodes, length⟩ := stands
  refine ⟨front ++ [Nested.composite parent? field? kind given? (Nested.places (at_ + 1) children)],
    back, ?_, ?_⟩
  · rw [nodes, Nested.lay]
    simp only [List.append_assoc, List.singleton_append]
  · rw [List.length_append, length, List.length_singleton]

theorem Stands.head {parent? : Option Nat} {n : t.Node} {tree : Nested}
    (stands : Stands t parent? n.index tree) :
    (Nested.lay parent? n.index tree).head? = some n.record := by
  obtain ⟨front, back, nodes, length⟩ := stands
  obtain ⟨r, rest, head, _⟩ := Nested.exists_lay_eq_cons parent? n.index tree
  have here := n.record_eq
  rw [← Array.getElem?_toList, nodes, head, ← length] at here
  simp at here
  rw [head, here]
  rfl

theorem Stands.record_leaf {parent? : Option Nat} {n : t.Node} {field? : Option String}
    {kind : Kind} {rawKind? : Option String} {text : String} {span : Span}
    (stands : Stands t parent? n.index (.leaf field? kind rawKind? text span)) :
    n.record =
      ⟨kind, rawKind?.getD kind.name, field?, parent?, #[], some ⟨text, span⟩, span⟩ :=
  (Option.some.inj stands.head).symm

theorem Stands.record_node {parent? : Option Nat} {n : t.Node} {field? : Option String}
    {kind : Kind} {given? : Option (String × Span)} {children : List Nested}
    (stands : Stands t parent? n.index (.node field? kind given? children)) :
    n.record =
      Nested.composite parent? field? kind given? (Nested.places (n.index + 1) children) :=
  (Option.some.inj stands.head).symm

theorem Stands.parent? {parent? : Option Nat} {n : t.Node} {tree : Nested}
    (stands : Stands t parent? n.index tree) : n.parent?.map (·.index) = parent? := by
  rw [n.map_index_parent?]
  cases tree with
  | leaf => rw [stands.record_leaf]
  | node => rw [stands.record_node]; rfl

theorem Stands.children {parent? : Option Nat} {n : t.Node} {field? : Option String}
    {kind : Kind} {given? : Option (String × Span)} {children : List Nested}
    (stands : Stands t parent? n.index (.node field? kind given? children)) :
    n.children.map (·.index) = Nested.places (n.index + 1) children := by
  rw [n.map_index_children, stands.record_node]
  rfl

theorem Stands.children_leaf {parent? : Option Nat} {n : t.Node} {field? : Option String}
    {kind : Kind} {rawKind? : Option String} {text : String} {span : Span}
    (stands : Stands t parent? n.index (.leaf field? kind rawKind? text span)) :
    n.children = [] := by
  have none := n.map_index_children
  rw [stands.record_leaf] at none
  exact List.map_eq_nil_iff.1 none

end TreeLint.Tree
