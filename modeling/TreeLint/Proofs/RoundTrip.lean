import Mathlib.Logic.ExistsUnique
import TreeLint.Proofs.Scaffold

/-! Nested trees can be built and read back, and nothing else can be built. -/

namespace TreeLint.Tree

open Nested

variable {t : Tree}

theorem Represents.label {b : Builder} {s : Scaffold} (known : Represents b s)
    (unlabelled : b.pendingField? = none) (field? : Option String) :
    ∃ b', b.performAll (labelCalls field?) = .ok b' ∧ Represents b' s ∧
      b'.pendingField? = field? := by
  cases field? with
  | none => exact ⟨b, rfl, known, unlabelled⟩
  | some name =>
      exact ⟨b.field name, rfl, ⟨known.nodes, known.opened, known.lastSpan, known.valid⟩, rfl⟩

mutual
theorem Represents.performAll_calls {b : Builder} {s : Scaffold} : (tree : Nested) →
    Represents b s → s.HasRoom → tree.WellKinded → b.pendingField? = none →
    ∃ b', b.performAll tree.calls = .ok b' ∧ Represents b' (s.add tree) ∧ b'.pendingField? = none
  | .leaf field? kind rawKind? text span, known, room, .leaf token, unlabelled => by
      obtain ⟨b₁, labels, known₁, label⟩ := known.label unlabelled field?
      obtain ⟨b₂, added, known₂, used⟩ := known₁.token room token rawKind? text span
      refine ⟨b₂, ?_, label ▸ known₂, used⟩
      rw [calls, Builder.performAll_append_of_ok labels, Builder.performAll_cons_of_ok added]
      rfl
  | .node field? kind given? children, known, room, .node composite below, unlabelled => by
      obtain ⟨b₁, labels, known₁, label⟩ := known.label unlabelled field?
      obtain ⟨b₂, started, known₂, used⟩ := known₁.start room composite given?
      obtain ⟨b₃, filled, known₃, unused⟩ := known₂.performAll_callsAll children below used
      obtain ⟨b₄, closed, known₄, same⟩ := known₃.finishNode
      refine ⟨b₄, ?_, label ▸ known₄, same.trans unused⟩
      rw [calls, Builder.performAll_append_of_ok labels, Builder.performAll_cons_of_ok started,
        Builder.performAll_append_of_ok filled, Builder.performAll_cons_of_ok closed]
      rfl

theorem Represents.performAll_callsAll {b : Builder} {outer : Scaffold} {field? : Option String}
    {kind : Kind} {given? : Option (String × Span)} {before : List Nested} :
    (known : Represents b (.inside outer field? kind given? before)) → (trees : List Nested) →
    (∀ tree ∈ trees, tree.WellKinded) → b.pendingField? = none →
    ∃ b', b.performAll (callsAll trees) = .ok b' ∧
      Represents b' (.inside outer field? kind given? (before ++ trees)) ∧
      b'.pendingField? = none
  | known, [], _, unlabelled => ⟨b, rfl, (List.append_nil before).symm ▸ known, unlabelled⟩
  | known, first :: rest, kinds, unlabelled => by
      obtain ⟨b₁, added, known₁, unlabelled₁⟩ :=
        known.performAll_calls first trivial (kinds first (List.mem_cons_self ..)) unlabelled
      obtain ⟨b₂, filled, known₂, unlabelled₂⟩ :=
        known₁.performAll_callsAll rest
          (fun tree member => kinds tree (List.mem_cons_of_mem _ member)) unlabelled₁
      refine ⟨b₂, ?_, List.append_cons before first rest ▸ known₂, unlabelled₂⟩
      rw [callsAll, Builder.performAll_append_of_ok added, filled]
end

@[simp] private theorem addTo_leaf (b : Builder) (kind : Kind) (rawKind? : Option String)
    (text : String) (span : Span) :
    (Nested.leaf none kind rawKind? text span).addTo b =
      b.performAll [.token kind rawKind? text span] := by
  cases rawKind? with
  | none =>
      change (b.tokenRaw kind kind.name text span).map (·.2) = _
      rw [Builder.performAll, Builder.perform, Builder.token]
      cases b.tokenRaw kind kind.name text span <;> rfl
  | some rawKind =>
      change (b.tokenRaw kind rawKind text span).map (·.2) = _
      rw [Builder.performAll, Builder.perform]
      cases b.tokenRaw kind rawKind text span <;> rfl

private theorem addTo_node (b : Builder) (kind : Kind) (given? : Option (String × Span))
    {children : List Nested} (below : ∀ b, addAllTo b children = b.performAll (callsAll children)) :
    (Nested.node none kind given? children).addTo b =
      b.performAll (.start kind given? :: (callsAll children ++ [.finishNode])) := by
  have close (b : Builder) : b.finishNode.map (·.2) = b.performAll [.finishNode] := by
    rw [Builder.performAll, Builder.perform]
    cases b.finishNode <;> rfl
  have filled (b : Builder) :
      (do
        let b ← addAllTo b children
        b.finishNode.map (·.2)) =
        b.performAll (callsAll children ++ [.finishNode]) := by
    rw [Builder.performAll_append, below]
    simp only [close]
  cases given? with
  | none =>
      rw [addTo, Builder.performAll, Builder.perform]
      change (b.startNode kind >>= _) = _
      cases b.startNode kind with
      | error e => rfl
      | ok started => exact filled started.2
  | some given =>
      rw [addTo, Builder.performAll, Builder.perform]
      change (b.startSpanned kind given.1 given.2 >>= _) = _
      cases b.startSpanned kind given.1 given.2 with
      | error e => rfl
      | ok started => exact filled started.2

mutual
theorem addTo_eq_performAll (b : Builder) : (tree : Nested) → tree.addTo b = b.performAll tree.calls
  | .leaf none kind rawKind? text span => addTo_leaf b kind rawKind? text span
  | .leaf (some name) kind rawKind? text span => addTo_leaf (b.field name) kind rawKind? text span
  | .node none kind given? children =>
      addTo_node b kind given? fun b => addAllTo_eq_performAll b children
  | .node (some name) kind given? children =>
      addTo_node (b.field name) kind given? fun b => addAllTo_eq_performAll b children

theorem addAllTo_eq_performAll (b : Builder) :
    (trees : List Nested) → addAllTo b trees = b.performAll (callsAll trees)
  | [] => rfl
  | first :: rest => by
      rw [addAllTo, callsAll, Builder.performAll_append, addTo_eq_performAll b first]
      congr
      funext b
      exact addAllTo_eq_performAll b rest
end

mutual
/-- All that can be read off a node and the nodes below it agrees with the tree. -/
def Node.Reads (n : t.Node) : Nested → Prop
  | .leaf field? kind rawKind? text span =>
      n.field? = field? ∧ n.kind = kind ∧ n.rawKind = rawKind?.getD kind.name ∧
        n.token = .ok ⟨text, span⟩ ∧ n.span = span ∧ n.children = []
  | .node field? kind given? children =>
      n.field? = field? ∧ n.kind = kind ∧ n.rawKind = (given?.map (·.1)).getD kind.name ∧
        n.token = .error (.notALeaf kind n.line) ∧ (∀ given ∈ given?, n.span = given.2) ∧
        ReadsAll n.children children

def ReadsAll (ns : List t.Node) : List Nested → Prop
  | [] => ns = []
  | first :: rest => ∃ n others, ns = n :: others ∧ Node.Reads n first ∧ ReadsAll others rest
end

mutual
theorem Stands.reads {parent? : Option Nat} {last : Span} {n : t.Node} : (tree : Nested) →
    Stands t parent? n.index (settle last tree).1 → n.Reads tree
  | .leaf field? kind rawKind? text span, stands => by
      have record := stands.record_leaf
      refine ⟨?_, ?_, ?_, ?_, ?_, stands.children_leaf⟩
      · rw [Node.field?, record]
      · rw [Node.kind, record]
      · rw [Node.rawKind, record]
        rfl
      · rw [Node.token, Node.token?, record]
      · rw [Node.span, record]
  | .node field? kind given? children, stands => by
      have record := stands.record_node
      refine ⟨?_, ?_, ?_, ?_, ?_, ?_⟩
      · rw [Node.field?, record]
        rfl
      · rw [Node.kind, record]
        rfl
      · rw [Node.rawKind, record]
        cases given? <;> rfl
      · rw [Node.token, Node.token?, Node.kind, record]
        rfl
      · rintro given ⟨⟩
        rw [Node.span, record]
        rfl
      · exact StandAll.reads children stands.below
          (stands.children.trans (places_settleAll _ last children))

theorem StandAll.reads {parent? : Option Nat} {last : Span} {at_ : Nat} {ns : List t.Node} :
    (trees : List Nested) → StandAll t parent? at_ (settleAll last trees).1 →
    ns.map (·.index) = places at_ trees → ReadsAll ns trees
  | [], _, placed => List.map_eq_nil_iff.1 placed
  | first :: rest, stand, placed => by
      cases ns with
      | nil => cases placed
      | cons n others =>
          obtain ⟨rfl, later⟩ := List.cons.inj placed
          have stands := stand.rest
          rw [size_settle] at stands
          exact ⟨n, others, rfl, Stands.reads first stand.first, StandAll.reads rest stands later⟩
end

namespace Scaffold

def take : Scaffold → Step → Scaffold
  | s, .start field? kind given? => .inside s field? kind given? []
  | s, .token field? kind rawKind? text span => s.add (.leaf field? kind rawKind? text span)
  | .inside outer field? kind given? trees, .finish => outer.add (.node field? kind given? trees)
  | .ground trees, .finish => .ground trees

mutual
theorem foldl_take_steps (s : Scaffold) : (tree : Nested) → tree.steps.foldl take s = s.add tree
  | .leaf .. => rfl
  | .node field? kind given? children => by
      rw [Nested.steps, List.foldl_cons, List.foldl_append]
      exact congrArg (take · .finish) (foldl_take_stepsAll children)

theorem foldl_take_stepsAll {outer : Scaffold} {field? : Option String} {kind : Kind}
    {given? : Option (String × Span)} {before : List Nested} : (trees : List Nested) →
    (stepsAll trees).foldl take (.inside outer field? kind given? before) =
      .inside outer field? kind given? (before ++ trees)
  | [] => by rw [List.append_nil]; rfl
  | first :: rest => by
      rw [stepsAll, List.foldl_append, foldl_take_steps _ first, List.append_cons]
      exact foldl_take_stepsAll rest
end

end Scaffold

theorem Nested.steps_injective : Function.Injective Nested.steps := by
  intro a b same
  have replayed := congrArg (List.foldl Scaffold.take (.ground [])) same
  rw [Scaffold.foldl_take_steps, Scaffold.foldl_take_steps] at replayed
  cases replayed
  rfl

theorem exists_reads_of_wellKinded (id : TreeId) {tree : Nested} (kinds : tree.WellKinded) :
    ∃ b t, (Builder.new id).performAll tree.calls = .ok b ∧ b.finish = .ok t ∧
      t.root.Reads tree := by
  obtain ⟨b, made, known, _⟩ := (Represents.new id).performAll_calls tree rfl kinds rfl
  have some : 0 < b.nodes.size := by
    rw [known.size]
    exact Nat.lt_of_lt_of_eq tree.size_pos (Nat.add_zero _).symm
  obtain ⟨t, finished, _⟩ := Builder.finish_of_closed known.opened some
  obtain ⟨root, same, _, records⟩ := known.finish finished
  cases same
  exact ⟨b, t, made, finished, Stands.reads tree (stands_root records)⟩

/-- Building a tree whose kinds fit fails nowhere, and reading undoes it.  Whatever else is called,
a tree that is finished is the only one with the steps that were taken. -/
theorem builds_nested_trees_only :
    (∀ (id : TreeId) (tree : Nested), tree.WellKinded →
      ∃ b t, (Builder.new id).performAll tree.calls = .ok b ∧ tree.addTo (.new id) = .ok b ∧
        b.finish = .ok t ∧ t.root.Reads tree) ∧
    ∀ (id : TreeId) (calls : List Builder.Call) (t : Tree),
      ((Builder.new id).attemptAll calls).finish = .ok t →
      ∃! tree : Nested, tree.WellKinded ∧
        Step.ofCalls none ((Builder.new id).succeeding calls) = Step.ofCalls none tree.calls ∧
        t.root.Reads tree := by
  refine ⟨fun id tree kinds => ?_, fun id calls t finished => ?_⟩
  · obtain ⟨b, t, made, finished, reads⟩ := exists_reads_of_wellKinded id kinds
    exact ⟨b, t, made, (addTo_eq_performAll _ tree).trans made, finished, reads⟩
  · obtain ⟨root, kinds, taken, records⟩ := exists_nested_of_finish finished
    have steps (tree : Nested) : Step.ofCalls none tree.calls = tree.steps := by
      have all := ofCalls_calls [] tree
      rwa [List.append_nil, Step.ofCalls, List.append_nil] at all
    have reads : t.root.Reads root := Stands.reads root (stands_root records)
    refine ⟨root, ⟨kinds, taken.trans (steps root).symm, reads⟩, ?_⟩
    rintro other ⟨_, same, _⟩
    apply steps_injective
    rw [← steps, ← same, taken]

/-- A block that has a span of its own, around a block that has not and a semicolon. -/
def blockInBlock : Nested :=
  .node none .block (some ("body", .onLine 1 1 9)) [
    .node (some "inner") .block none [],
    .leaf none .semicolon (some "end") ";" (.onLine 1 3 4)]

theorem blockInBlock_and_strayCalls :
    blockInBlock.WellKinded ∧
      (∃ b t, (Builder.new ⟨0⟩).performAll blockInBlock.calls = .ok b ∧
        blockInBlock.addTo (.new ⟨0⟩) = .ok b ∧ b.finish = .ok t ∧ t.root.Reads blockInBlock) ∧
      ∃ t, ((Builder.new ⟨0⟩).attemptAll Builder.strayCalls).finish = .ok t ∧
        ∃! tree : Nested, tree.WellKinded ∧
          Step.ofCalls none ((Builder.new ⟨0⟩).succeeding Builder.strayCalls) =
            Step.ofCalls none tree.calls ∧
          t.root.Reads tree := by
  have kinds : blockInBlock.WellKinded := by
    refine .node rfl fun tree member => ?_
    rcases List.mem_cons.1 member with rfl | last
    · exact .node rfl fun _ none => absurd none List.not_mem_nil
    · cases List.mem_singleton.1 last
      exact .leaf rfl
  obtain ⟨t, finished, _⟩ :=
    Builder.finish_of_closed (b := (Builder.new ⟨0⟩).attemptAll Builder.strayCalls) rfl (by decide)
  exact ⟨kinds, builds_nested_trees_only.1 ⟨0⟩ blockInBlock kinds, t, finished,
    builds_nested_trees_only.2 ⟨0⟩ Builder.strayCalls t finished⟩

end TreeLint.Tree
