import TreeLint.Proofs.Spans

/-! Trees whose spans all come from tokens that are added in document order: siblings stand in a
row, and every node spans all below it. -/

namespace TreeLint.Tree

open Nested

variable {t : Tree}

/-- The spans right below a node stand in a row, and the node covers its first and its last. -/
structure Fits (span : Span) (parts : List Span) : Prop where
  proper : span.start.le span.stop = true
  row : Span.Row parts
  derived : ∀ first ∈ parts.head?, ∀ last ∈ parts.getLast?, span = first.cover last

namespace Fits

variable {span first last : Span} {parts rest : List Span}

theorem cover (row : Span.Row (first :: rest)) (final : (first :: rest).getLast? = some last) :
    Fits (first.cover last) (first :: rest) where
  proper := by
    have member := List.mem_of_getLast? final
    obtain ⟨start, stop⟩ := row.cover_ends final
    rw [start, stop]
    exact Position.le_trans (row.first_le member) (row.proper last member)
  row := row
  derived := by simp [final]

theorem ends (fits : Fits span (first :: rest)) (final : (first :: rest).getLast? = some last) :
    span.start = first.start ∧ span.stop = last.stop := by
  rw [fits.derived first rfl last final]
  exact fits.row.cover_ends final

theorem encloses (fits : Fits span parts) {part : Span} (member : part ∈ parts) :
    span.start.le part.start = true ∧ part.stop.le span.stop = true := by
  cases parts with
  | nil => cases member
  | cons first rest =>
      obtain ⟨start, stop⟩ := fits.ends List.getLast?_cons
      rw [start, stop]
      exact ⟨fits.row.first_le member, fits.row.le_last List.getLast?_cons member⟩

theorem covers_all (fits : Fits span (first :: rest)) :
    span.start = (rest.foldl Span.cover first).start ∧
      span.stop = (rest.foldl Span.cover first).stop := by
  obtain ⟨start, stop⟩ := fits.ends List.getLast?_cons
  have all := fits.row.cover_all (by rw [List.getLast?_map, List.getLast?_cons]; rfl)
  exact ⟨start.trans all.1.symm, stop.trans all.2.symm⟩

end Fits

def Step.givesSpan : Step → Bool
  | start _ _ given? => given?.isSome
  | _ => false

/-- The tokens stand in a row that begins behind the place. -/
structure After (place : Position) (tokens : List Span) : Prop where
  row : Span.Row tokens
  behind : ∀ token ∈ tokens, place.le token.start = true

@[simp] theorem after_cons {place : Position} {token : Span} {rest : List Span} :
    After place (token :: rest) ↔ place.le token.start = true ∧
      token.start.le token.stop = true ∧ After token.stop rest := by
  constructor
  · intro after
    obtain ⟨proper, beyond, row⟩ := Span.row_cons.1 after.row
    exact ⟨after.behind token (by simp), proper, row, beyond⟩
  · rintro ⟨behind, proper, row, beyond⟩
    refine ⟨Span.row_cons.2 ⟨proper, beyond, row⟩, List.forall_mem_cons.2 ⟨behind, ?_⟩⟩
    intro later member
    apply Position.le_trans behind
    apply Position.le_trans proper
    exact beyond later member

/-- The tree stands between the places, and each of its nodes spans what is right below it. -/
structure Placed (before : Position) (tree : Nested) (after : Position) : Prop where
  fits : tree.Throughout fun below => Fits below.span (below.parts.map Nested.span)
  behind : before.le tree.span.start = true
  ahead : tree.span.stop.le after = true

structure PlacedAll (before : Position) (trees : List Nested) (after : Position) : Prop where
  placed : ∀ tree ∈ trees, Placed before tree after
  row : Span.Row (trees.map Nested.span)
  forward : before.le after = true

theorem Placed.forward {before after : Position} {tree : Nested}
    (placed : Placed before tree after) : before.le after = true := by
  apply Position.le_trans placed.behind
  apply Position.le_trans placed.fits.here.proper
  exact placed.ahead

namespace PlacedAll

variable {before middle after : Position} {trees : List Nested}

theorem cons {first : Nested} {rest : List Nested} (here : Placed before first middle)
    (later : PlacedAll middle rest after) : PlacedAll before (first :: rest) after where
  placed := by
    refine List.forall_mem_cons.2 ⟨⟨here.fits, here.behind, ?_⟩, ?_⟩
    · exact Position.le_trans here.ahead later.forward
    · intro tree member
      have placed := later.placed tree member
      exact ⟨placed.fits, Position.le_trans here.forward placed.behind, placed.ahead⟩
  row := by
    refine Span.row_cons.2 ⟨here.fits.here.proper, ?_, later.row⟩
    intro span member
    obtain ⟨tree, inside, rfl⟩ := List.mem_map.1 member
    exact Position.le_trans here.ahead (later.placed tree inside).behind
  forward := Position.le_trans here.forward later.forward

theorem around {last : Span} (placed : PlacedAll before trees last.stop) :
    before.le (spanAround last trees).start = true ∧
      (spanAround last trees).stop.le last.stop = true ∧
      Fits (spanAround last trees) (trees.map Nested.span) := by
  cases trees with
  | nil =>
      refine ⟨placed.forward, Position.le_refl _, ?_⟩
      exact { proper := Position.le_refl _, row := placed.row, derived := nofun }
  | cons first rest =>
      obtain ⟨final, reached, span⟩ := exists_spanAround_cons last first rest
      have read : ((first :: rest).map Nested.span).getLast? = some final.span := by
        simp only [List.getLast?_map, reached, Option.map_some]
      obtain ⟨start, stop⟩ := placed.row.cover_ends read
      rw [span]
      refine ⟨?_, ?_, .cover placed.row read⟩
      · rw [start]
        exact (placed.placed first (by simp)).behind
      · rw [stop]
        exact (placed.placed final (List.mem_of_getLast? reached)).ahead

end PlacedAll

mutual
theorem placed_settle {rest : List Span} {last : Span} : (tree : Nested) →
    (∀ step ∈ tree.steps, step.givesSpan = false) →
    After last.stop (tree.steps.filterMap Step.tokenSpan? ++ rest) →
    Placed last.stop (settle last tree).1 (settle last tree).2.stop ∧
      After (settle last tree).2.stop rest
  | .leaf .., _, after => by
      obtain ⟨behind, proper, after⟩ := after_cons.1 after
      refine ⟨⟨.leaf ?_, behind, Position.le_refl _⟩, after⟩
      exact { proper := proper, row := ⟨nofun, .nil⟩, derived := nofun }
  | .node field? kind given? children, derived, after => by
      obtain ⟨plain, below⟩ := List.forall_mem_cons.1 derived
      cases given? with
      | some given => cases plain
      | none =>
          have placed := placedAll_settleAll children
            (fun step member => below step (List.mem_append_left _ member))
            (by simpa [steps, List.filterMap_cons, Step.tokenSpan?] using after)
          obtain ⟨behind, ahead, fits⟩ := placed.1.around
          refine ⟨⟨.node fits ?_, behind, ahead⟩, placed.2⟩
          intro tree member
          exact (placed.1.placed tree member).fits

theorem placedAll_settleAll {rest : List Span} {last : Span} : (trees : List Nested) →
    (∀ step ∈ stepsAll trees, step.givesSpan = false) →
    After last.stop ((stepsAll trees).filterMap Step.tokenSpan? ++ rest) →
    PlacedAll last.stop (settleAll last trees).1 (settleAll last trees).2.stop ∧
      After (settleAll last trees).2.stop rest
  | [], _, after => ⟨⟨nofun, ⟨nofun, .nil⟩, Position.le_refl _⟩, after⟩
  | first :: others, derived, after => by
      rw [stepsAll, List.forall_mem_append] at derived
      rw [stepsAll, List.filterMap_append, List.append_assoc] at after
      obtain ⟨here, beyond⟩ := placed_settle first derived.1 after
      obtain ⟨later, beyond⟩ := placedAll_settleAll others derived.2 beyond
      exact ⟨.cons here later, beyond⟩
end

/-- What a node spans, against what the nodes below it span. -/
structure Node.Encloses (n : t.Node) : Prop where
  descendants : ∀ m ∈ n.descendants,
    n.span.start.le m.span.start = true ∧ m.span.stop.le n.span.stop = true
  children : n.children.Pairwise fun a b => a.span.stop.le b.span.start = true
  derived : ∀ first ∈ n.children.head?, ∀ last ∈ n.children.getLast?,
    n.span = first.span.cover last.span
  covers_all : ∀ first rest, n.children.map (·.span) = first :: rest →
    n.span.start = (rest.foldl Span.cover first).start ∧
      n.span.stop = (rest.foldl Span.cover first).stop

theorem Node.encloses (all : ∀ n : t.Node, Fits n.span (n.children.map (·.span))) (n : t.Node) :
    n.Encloses where
  descendants := by
    induction n using induction_below with
    | step n ih =>
        intro m member
        rw [n.descendants_eq] at member
        rcases List.mem_cons.1 member with rfl | below
        · exact ⟨Position.le_refl _, Position.le_refl _⟩
        · obtain ⟨c, child, inside⟩ := List.mem_flatMap.1 below
          obtain ⟨starts, stops⟩ := (all n).encloses (List.mem_map_of_mem child)
          obtain ⟨later, earlier⟩ := ih c child m inside
          exact ⟨Position.le_trans starts later, Position.le_trans earlier stops⟩
  children := List.pairwise_map.1 (all n).row.apart
  derived := by
    intro first head last final
    apply (all n).derived
    · simp [Option.mem_def.1 head]
    · simp [Option.mem_def.1 final]
  covers_all := by
    intro first rest read
    exact (read ▸ all n).covers_all

/-- When all spans come from tokens in document order, every node encloses those below it. -/
theorem nodes_enclose_those_below {id : TreeId} {calls : List Builder.Call}
    (finished : ((Builder.new id).attemptAll calls).finish = .ok t)
    (derived : ∀ step ∈ stepsTaken id calls, step.givesSpan = false)
    (proper : ∀ span ∈ (stepsTaken id calls).filterMap Step.tokenSpan?,
      span.start.le span.stop = true)
    (ordered : ((stepsTaken id calls).filterMap Step.tokenSpan?).IsChain fun a b =>
      a.stop.le b.start = true) (n : t.Node) : n.Encloses := by
  obtain ⟨root, taken, laid⟩ := exists_laidOut_settled finished
  rw [taken] at derived proper ordered
  have after : After Span.empty.stop (root.steps.filterMap Step.tokenSpan? ++ []) := by
    rw [List.append_nil]
    refine ⟨.of_isChain proper ordered, ?_⟩
    intro token _
    simp [Position.le_iff, Span.empty, Span.stop]
    omega
  have placed := (placed_settle root derived after).1
  exact Node.encloses (laid.forall_spans_iff.2 placed.fits) n

/-- Blocks before, between and around two semicolons, and a call that fails. -/
def Builder.spacedCalls : List Call := [
  .start .compilationUnit none, .start .block none, .finishNode,
  .token .semicolon none ";" (.onLine 3 1 2), .start .block none, .start .block none, .finishNode,
  .token .semicolon none ";" (.onLine 3 4 5), .finishNode, .finishNode,
  .token .semicolon none ";" (.onLine 1 1 2)]

theorem spacedCalls_enclose :
    ∃ t, ((Builder.new ⟨0⟩).attemptAll Builder.spacedCalls).finish = .ok t ∧ t.size = 6 ∧
      ∀ n : t.Node, n.Encloses := by
  obtain ⟨t, finished, nodes⟩ :=
    Builder.finish_of_closed (b := (Builder.new ⟨0⟩).attemptAll Builder.spacedCalls) rfl (by decide)
  exact ⟨t, finished, congrArg Array.size nodes,
    nodes_enclose_those_below finished (by decide) (by decide) (by decide)⟩

end TreeLint.Tree
