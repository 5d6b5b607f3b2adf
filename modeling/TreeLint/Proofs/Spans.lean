import TreeLint.Proofs.Numbering

/-! Places in document order, rows of spans, and the spans of a tree against those that its builder
was given. -/

namespace TreeLint

namespace Position

theorem le_iff {a b : Position} :
    a.le b = true ↔ a.line < b.line ∨ a.line = b.line ∧ a.column ≤ b.column := by
  simp [le]

@[simp] theorem le_refl (a : Position) : a.le a = true := by
  simp [le_iff]

theorem le_trans {a b c : Position} (ab : a.le b = true) (bc : b.le c = true) :
    a.le c = true := by
  rw [le_iff] at ab bc ⊢
  omega

theorem le_antisymm {a b : Position} (ab : a.le b = true) (ba : b.le a = true) : a = b := by
  obtain ⟨line, column⟩ := a
  obtain ⟨line', column'⟩ := b
  simp only [le_iff] at ab ba
  simp only [mk.injEq]
  omega

end Position

namespace Span

theorem start_cover {a b : Span} (first : a.start.le b.start = true) :
    (a.cover b).start = a.start := by
  simp only [cover, first, if_true]
  rfl

theorem stop_cover {a b : Span} (last : a.stop.le b.stop = true) :
    (a.cover b).stop = b.stop := by
  by_cases back : b.stop.le a.stop = true
  · simp only [cover, back, if_true]
    exact Position.le_antisymm last back
  · simp only [cover, back]
    rfl

/-- No span ends before it starts, and none starts before those in front of it have ended. -/
structure Row (spans : List Span) : Prop where
  proper : ∀ span ∈ spans, span.start.le span.stop = true
  apart : spans.Pairwise fun a b => a.stop.le b.start = true

@[simp] theorem row_cons {first : Span} {rest : List Span} :
    Row (first :: rest) ↔ first.start.le first.stop = true ∧
      (∀ span ∈ rest, first.stop.le span.start = true) ∧ Row rest := by
  constructor
  · intro row
    obtain ⟨proper, later⟩ := List.forall_mem_cons.1 row.proper
    obtain ⟨after, apart⟩ := List.pairwise_cons.1 row.apart
    exact ⟨proper, after, later, apart⟩
  · rintro ⟨proper, after, row⟩
    exact ⟨List.forall_mem_cons.2 ⟨proper, row.proper⟩, List.pairwise_cons.2 ⟨after, row.apart⟩⟩

namespace Row

variable {first : Span} {rest : List Span}

theorem first_le (row : Row (first :: rest)) {span : Span} (member : span ∈ first :: rest) :
    first.start.le span.start = true := by
  obtain ⟨proper, after, _⟩ := row_cons.1 row
  rcases List.mem_cons.1 member with rfl | later
  · exact Position.le_refl _
  · exact Position.le_trans proper (after span later)

theorem of_isChain {spans : List Span} (proper : ∀ span ∈ spans, span.start.le span.stop = true)
    (chain : spans.IsChain fun a b => a.stop.le b.start = true) : Row spans := by
  induction spans with
  | nil => exact ⟨proper, .nil⟩
  | cons first rest ih =>
      obtain ⟨here, later⟩ := List.forall_mem_cons.1 proper
      have row := ih later chain.of_cons
      refine row_cons.2 ⟨here, ?_, row⟩
      intro span member
      cases rest with
      | nil => cases member
      | cons second rest =>
          exact Position.le_trans (List.isChain_cons_cons.1 chain).1 (row.first_le member)

theorem le_last {spans : List Span} (row : Row spans) {last : Span}
    (final : spans.getLast? = some last) {span : Span} (member : span ∈ spans) :
    span.stop.le last.stop = true := by
  obtain ⟨front, rfl⟩ := List.getLast?_eq_some_iff.1 final
  rcases List.mem_append.1 member with before | here
  · apply Position.le_trans ((List.pairwise_append.1 row.apart).2.2 span before last (by simp))
    exact row.proper last (by simp)
  · rw [List.mem_singleton.1 here]
    exact Position.le_refl _

theorem cover_ends (row : Row (first :: rest)) {last : Span}
    (final : (first :: rest).getLast? = some last) :
    (first.cover last).start = first.start ∧ (first.cover last).stop = last.stop :=
  ⟨start_cover (row.first_le (List.mem_of_getLast? final)),
    stop_cover (row.le_last final (by simp))⟩

theorem cover_all {place : Position} (row : Row (first :: rest))
    (final : ((first :: rest).map stop).getLast? = some place) :
    (rest.foldl cover first).start = first.start ∧ (rest.foldl cover first).stop = place := by
  induction rest generalizing first with
  | nil =>
      cases final
      exact ⟨rfl, rfl⟩
  | cons second rest ih =>
      obtain ⟨_, after, later⟩ := row_cons.1 row
      obtain ⟨proper, beyond, rest⟩ := row_cons.1 later
      have start : (first.cover second).start = first.start :=
        start_cover (row.first_le (by simp))
      have stop : (first.cover second).stop = second.stop :=
        stop_cover (Position.le_trans (after second (by simp)) proper)
      have forward : first.start.le second.stop = true :=
        Position.le_trans (row.first_le (by simp)) proper
      have ends := @ih (first.cover second)
        (row_cons.2 (by simpa only [start, stop] using ⟨forward, beyond, rest⟩))
        (by simpa [stop] using final)
      rwa [start] at ends

end Row

end Span

namespace Tree

variable {t : Tree}

namespace Step

def span? : Step → Option Span
  | start _ _ given? => given?.map (·.2)
  | token _ _ _ _ span => some span
  | finish => none

def tokenSpan? : Step → Option Span
  | token _ _ _ _ span => some span
  | _ => none

end Step

namespace Nested

def parts : Nested → List Nested
  | leaf .. => []
  | node _ _ _ children => children

inductive Throughout (P : Nested → Prop) : Nested → Prop
  | leaf {span : Span} (here : P (.leaf field? kind rawKind? text span)) :
    Throughout P (.leaf field? kind rawKind? text span)
  | node (here : P (.node field? kind given? children))
    (below : ∀ tree ∈ children, Throughout P tree) :
    Throughout P (.node field? kind given? children)

theorem Throughout.here {P : Nested → Prop} {tree : Nested} (holds : Throughout P tree) :
    P tree := by
  cases holds with
  | leaf here => exact here
  | node here _ => exact here

@[simp] theorem throughout_node {P : Nested → Prop} :
    (node field? kind given? children).Throughout P ↔
      P (node field? kind given? children) ∧ ∀ tree ∈ children, tree.Throughout P := by
  constructor
  · intro holds
    cases holds with
    | node here below => exact ⟨here, below⟩
  · rintro ⟨here, below⟩
    exact .node here below

theorem Throughout.inherited (P : Nested → Prop) : Inherited (Throughout P) :=
  fun holds => (throughout_node.1 holds).2

theorem exists_spanAround_cons (last : Span) (first : Nested) (rest : List Nested) :
    ∃ final, (first :: rest).getLast? = some final ∧
      spanAround last (first :: rest) = first.span.cover final.span := by
  refine ⟨_, List.getLast?_cons, ?_⟩
  simp [spanAround, List.getLast?_cons]

end Nested

open Nested

theorem Stands.exists_node {parent? : Option Nat} {at_ : Nat} {tree : Nested}
    (stands : Stands t parent? at_ tree) : ∃ n : t.Node, n.index = at_ := by
  obtain ⟨front, back, nodes, length⟩ := stands
  have size := congrArg List.length nodes
  have := tree.size_pos
  simp only [Array.length_toList, List.length_append, length_lay] at size
  exact ⟨⟨at_, by omega⟩, rfl⟩

theorem Stands.span {parent? : Option Nat} {n : t.Node} {tree : Nested}
    (stands : Stands t parent? n.index tree) : n.span = tree.span := by
  cases tree with
  | leaf => rw [Node.span, stands.record_leaf]; rfl
  | node => rw [Node.span, stands.record_node]; rfl

theorem Stands.map_span_children {parent? : Option Nat} {n : t.Node} {tree : Nested}
    (stands : Stands t parent? n.index tree) :
    n.children.map (·.span) = tree.parts.map Nested.span := by
  cases tree with
  | leaf =>
      rw [stands.children_leaf]
      rfl
  | node field? kind given? children =>
      obtain ⟨front, back, nodes, length⟩ := stands.below
      have read := spans_at_places children front (length ▸ nodes)
      have own (c : t.Node) : t.nodes.toList[c.index]?.map (·.span) = some c.span := by
        rw [Array.getElem?_toList, c.record_eq]
        rfl
      rw [length, ← stands.children, List.map_map] at read
      apply (List.map_inj_right (f := some) fun _ _ => Option.some.inj).1
      simpa only [List.map_map, Function.comp_def, own, parts] using read

section Around

variable {R : Span → List Span → Prop}

mutual
theorem Stands.throughout (all : ∀ n : t.Node, R n.span (n.children.map (·.span)))
    {parent? : Option Nat} {at_ : Nat} : (tree : Nested) → Stands t parent? at_ tree →
    tree.Throughout fun below => R below.span (below.parts.map Nested.span)
  | .leaf .., stands => by
      obtain ⟨n, rfl⟩ := stands.exists_node
      exact .leaf (stands.span ▸ stands.map_span_children ▸ all n)
  | .node _ _ _ children, stands => by
      obtain ⟨n, rfl⟩ := stands.exists_node
      exact .node (stands.span ▸ stands.map_span_children ▸ all n)
        (StandAll.throughout all children stands.below)

theorem StandAll.throughout (all : ∀ n : t.Node, R n.span (n.children.map (·.span)))
    {parent? : Option Nat} {at_ : Nat} : (trees : List Nested) → StandAll t parent? at_ trees →
    ∀ tree ∈ trees,
      tree.Throughout fun below => R below.span (below.parts.map Nested.span)
  | [], _ => by simp
  | first :: rest, stand =>
      List.forall_mem_cons.2
        ⟨Stands.throughout all first stand.first, StandAll.throughout all rest stand.rest⟩
end

theorem LaidOut.forall_spans_iff {tree : Nested} (laid : LaidOut t tree) :
    (∀ n : t.Node, R n.span (n.children.map (·.span))) ↔
      tree.Throughout fun below => R below.span (below.parts.map Nested.span) := by
  constructor
  · intro all
    exact (stands_root laid.records).throughout all
  · intro holds n
    obtain ⟨_, below, stands, holds⟩ := laid.exists_stands_of (Throughout.inherited _) holds n
    rw [stands.span, stands.map_span_children]
    exact holds.here

end Around

end Tree

end TreeLint
