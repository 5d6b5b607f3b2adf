import TreeLint.Proofs.Calls
import TreeLint.Proofs.Layout

/-! Trees under construction: what the records and the open nodes of a builder stand for, and how
each call changes it. -/

namespace TreeLint.Tree

open Nested

@[simp] private theorem modify_length_append (front : List α) (a : α) (back : List α) (f : α → α) :
    (front ++ a :: back).modify front.length f = front ++ f a :: back :=
  List.modifyTailIdx_add _ 0 front (a :: back)

/-- The trees built so far, with the open nodes that they stand in. -/
inductive Scaffold where
  /-- Outside of all open nodes. -/
  | ground (trees : List Nested)
  /-- In an open node, whose place is after all in the outer scaffold. -/
  | inside (outer : Scaffold) (field? : Option String) (kind : Kind)
      (given? : Option (String × Span)) (trees : List Nested)

namespace Scaffold

def add (tree : Nested) : Scaffold → Scaffold
  | ground trees => ground (trees ++ [tree])
  | inside outer field? kind given? trees => inside outer field? kind given? (trees ++ [tree])

def size : Scaffold → Nat
  | ground trees => sizeAll trees
  | inside outer _ _ _ trees => outer.size + 1 + sizeAll trees

def lastSpan : Scaffold → Span
  | ground trees => (settleAll .empty trees).2
  | inside outer _ _ _ trees => (settleAll outer.lastSpan trees).2

def opened : Scaffold → List OpenNode
  | ground _ => []
  | inside outer _ _ given? _ => ⟨outer.size, given?.isSome⟩ :: outer.opened

def parent? (s : Scaffold) : Option Nat := s.opened.head?.map (·.index)

/-- The records of all nodes, when the innermost open node has more children at the given
places. -/
def records : Scaffold → List Nat → List NodeRecord
  | ground trees, _ => layAll none 0 (settleAll .empty trees).1
  | inside outer field? kind given? trees, more =>
      outer.records [outer.size] ++
        composite outer.parent? field? kind given? (places (outer.size + 1) trees ++ more) ::
          layAll (some outer.size) (outer.size + 1) (settleAll outer.lastSpan trees).1

def steps : Scaffold → List Step
  | ground trees => stepsAll trees
  | inside outer field? kind given? trees =>
      outer.steps ++ .start field? kind given? :: stepsAll trees

def HasRoom : Scaffold → Prop
  | ground trees => trees = []
  | inside .. => True

/-- There is one outermost node at most, and the kinds fit. -/
inductive Valid : Scaffold → Prop
  | ground (single : trees.length ≤ 1) (kinds : ∀ tree ∈ trees, tree.WellKinded) :
    Valid (.ground trees)
  | inside (outer : Valid s) (room : s.HasRoom) (composite : kind.isToken = false)
    (kinds : ∀ tree ∈ trees, tree.WellKinded) : Valid (.inside s field? kind given? trees)

@[simp] theorem length_records (s : Scaffold) (more : List Nat) :
    (s.records more).length = s.size := by
  induction s generalizing more with
  | ground trees => rw [records, length_layAll, sizeAll_settleAll, size]
  | inside outer field? kind given? trees ih =>
      rw [records, List.length_append, List.length_cons, ih, length_layAll, sizeAll_settleAll, size]
      omega

@[simp] theorem lastSpan_add (s : Scaffold) (tree : Nested) :
    (s.add tree).lastSpan = (settle s.lastSpan tree).2 := by
  cases s <;> simp only [add, lastSpan, settleAll_concat]

@[simp] theorem opened_add (s : Scaffold) (tree : Nested) : (s.add tree).opened = s.opened := by
  cases s <;> rfl

@[simp] theorem steps_add (s : Scaffold) (tree : Nested) :
    (s.add tree).steps = s.steps ++ tree.steps := by
  cases s <;> simp only [add, steps, stepsAll_concat, List.append_assoc, List.cons_append]

theorem records_add (s : Scaffold) (tree : Nested) :
    (s.add tree).records [] =
      s.records [s.size] ++ lay s.parent? s.size (settle s.lastSpan tree).1 := by
  cases s with
  | ground trees =>
      simp only [add, records, settleAll_concat, layAll_concat, sizeAll_settleAll, Nat.zero_add]
      rfl
  | inside outer field? kind given? trees =>
      simp only [add, records, settleAll_concat, layAll_concat, places_concat, sizeAll_settleAll,
        List.append_nil, List.append_assoc, List.cons_append]
      rfl

theorem records_listChild (s : Scaffold) (place : Nat) :
    s.records [place] = Builder.listChild (s.records []) s.parent? place := by
  cases s with
  | ground trees => rfl
  | inside outer field? kind given? trees =>
      have parent : (inside outer field? kind given? trees).parent? =
          some (outer.records [outer.size]).length := by
        rw [length_records]
        rfl
      rw [parent, Builder.listChild, records, records, modify_length_append]
      simp [composite]

theorem Valid.add {s : Scaffold} {tree : Nested} (valid : s.Valid) (room : s.HasRoom)
    (kinds : tree.WellKinded) : (s.add tree).Valid := by
  cases valid with
  | ground single known =>
      cases room
      exact .ground (Nat.le_refl 1) (by simpa using kinds)
  | inside outer outerRoom composite known =>
      refine .inside outer outerRoom composite fun other member => ?_
      rcases List.mem_append.1 member with before | new
      · exact known other before
      · cases List.mem_singleton.1 new
        exact kinds

end Scaffold

mutual
theorem Nested.WellKinded.settle (last : Span) : {tree : Nested} → tree.WellKinded →
    (Nested.settle last tree).1.WellKinded
  | _, .leaf token => .leaf token
  | _, .node composite below => .node composite (wellKinded_settleAll last below)

theorem wellKinded_settleAll (last : Span) : {trees : List Nested} →
    (∀ tree ∈ trees, tree.WellKinded) → ∀ tree ∈ (settleAll last trees).1, tree.WellKinded
  | [], _ => fun _ none => absurd none List.not_mem_nil
  | first :: rest, kinds => by
      rw [settleAll]
      exact List.forall_mem_cons.2 ⟨(kinds first (List.mem_cons_self ..)).settle last,
        wellKinded_settleAll _ fun tree member => kinds tree (List.mem_cons_of_mem _ member)⟩
end

namespace Builder

theorem perform_start_of_room {b : Builder} {kind : Kind} (composite : kind.isToken = false)
    (room : b.HasRoom) (given? : Option (String × Span)) :
    ∃ b', b.perform (.start kind given?) = .ok (some b.nodes.size, b') ∧
      b.Adds (Nested.composite b.parent? b.pendingField? kind given? []) b' ∧
      b'.opened = ⟨b.nodes.size, given?.isSome⟩ :: b.opened ∧ b'.lastSpan = b.lastSpan := by
  cases given? with
  | none =>
      obtain ⟨b', started, left⟩ := startNode_of_room composite room
      exact ⟨b', by rw [perform, started]; rfl, left⟩
  | some given =>
      obtain ⟨b', started, left⟩ := startSpanned_of_room composite room given.1 given.2
      exact ⟨b', by rw [perform, started]; rfl, left⟩

theorem perform_token_of_room {b : Builder} {kind : Kind} (token : kind.isToken)
    (room : b.HasRoom) (rawKind? : Option String) (text : String) (span : Span) :
    ∃ b', b.perform (.token kind rawKind? text span) = .ok (some b.nodes.size, b') ∧
      b.Adds ⟨kind, rawKind?.getD kind.name, b.pendingField?, b.parent?, #[], some ⟨text, span⟩,
        span⟩ b' ∧
      b'.opened = b.opened ∧ b'.lastSpan = span := by
  cases rawKind? with
  | none =>
      obtain ⟨b', added, left⟩ := tokenRaw_of_room token room kind.name text span
      exact ⟨b', by rw [perform, Builder.token, added]; rfl, left⟩
  | some rawKind =>
      obtain ⟨b', added, left⟩ := tokenRaw_of_room token room rawKind text span
      exact ⟨b', by rw [perform, added]; rfl, left⟩

private theorem span_of_read {nodes : Array NodeRecord} {place? : Option Nat}
    {tree? : Option Nested}
    (read : place?.map (fun place => nodes.toList[place]?.map (·.span)) =
      tree?.map fun tree => some tree.span) :
    (place?.bind (nodes[·]?)).map (·.span) = tree?.map (·.span) := by
  cases place? with
  | none =>
      cases tree? with
      | none => rfl
      | some tree => cases read
  | some place =>
      cases tree? with
      | none => cases read
      | some tree =>
          rw [Option.map_some, Option.map_some, Array.getElem?_toList] at read
          exact Option.some.inj read

theorem derivedSpan_eq {b : Builder} {index : Nat} {children : List Nat} {trees : List Nested}
    (listed : b.nodes[index]?.map (·.children) = some children.toArray)
    (read : children.map (fun place => b.nodes.toList[place]?.map (·.span)) =
      trees.map fun tree => some tree.span) :
    b.derivedSpan index = spanAround b.lastSpan trees := by
  have heads := congrArg List.head? read
  have lasts := congrArg List.getLast? read
  rw [List.head?_map, List.head?_map] at heads
  rw [List.getLast?_map, List.getLast?_map] at lasts
  have first := span_of_read heads
  have final := span_of_read lasts
  rw [List.head?_eq_getElem?] at first
  simp only [derivedSpan, listed, Option.getD_some, List.getElem?_toArray, List.back?_toArray]
  rw [spanAround, ← first, ← final]
  cases children[0]?.bind (b.nodes[·]?) <;> cases children.getLast?.bind (b.nodes[·]?) <;> rfl

private theorem ok_of_map {x : Except ε α} {f : α → β} {y : β} (mapped : x.map f = .ok y) :
    ∃ a, x = .ok a := by
  cases x with
  | error e => cases mapped
  | ok a => exact ⟨a, rfl⟩

theorem room_of_perform_start {b : Builder} {kind : Kind} {given? : Option (String × Span)}
    {x : Option Nat × Builder} (made : b.perform (.start kind given?) = .ok x) :
    kind.isToken = false ∧ b.HasRoom := by
  cases given? with
  | none =>
      obtain ⟨_, started⟩ := ok_of_map made
      exact room_of_startNode started
  | some given =>
      obtain ⟨_, started⟩ := ok_of_map made
      exact room_of_startSpanned started

theorem room_of_perform_token {b : Builder} {kind : Kind} {rawKind? : Option String}
    {text : String} {span : Span} {x : Option Nat × Builder}
    (made : b.perform (.token kind rawKind? text span) = .ok x) :
    kind.isToken ∧ b.HasRoom := by
  cases rawKind? with
  | none =>
      obtain ⟨_, added⟩ := ok_of_map made
      exact room_of_tokenRaw added
  | some rawKind =>
      obtain ⟨_, added⟩ := ok_of_map made
      exact room_of_tokenRaw added

end Builder

/-- The builder has the records and the open nodes of the scaffold. -/
structure Represents (b : Builder) (s : Scaffold) : Prop where
  nodes : b.nodes.toList = s.records []
  opened : b.opened = s.opened
  lastSpan : b.lastSpan = s.lastSpan
  valid : s.Valid

namespace Represents

variable {b b' : Builder} {s : Scaffold}

theorem new (id : TreeId) : Represents (.new id) (.ground []) where
  nodes := rfl
  opened := rfl
  lastSpan := rfl
  valid := .ground (Nat.zero_le 1) (by simp)

theorem size (known : Represents b s) : b.nodes.size = s.size := by
  rw [← Array.length_toList, known.nodes, s.length_records]

theorem parent? (known : Represents b s) : b.parent? = s.parent? :=
  congrArg (fun opened => opened.head?.map (·.index)) known.opened

theorem hasRoom_iff (known : Represents b s) : b.HasRoom ↔ s.HasRoom := by
  have opened := known.opened
  have size := known.size
  cases s with
  | ground trees =>
      cases trees with
      | nil => exact iff_of_true (fun _ => Array.eq_empty_of_size_eq_zero size) rfl
      | cons first rest =>
          have := first.size_pos
          refine iff_of_false (fun room => ?_) nofun
          rw [room opened] at size
          simp only [Scaffold.size, sizeAll, List.size_toArray, List.length_nil] at size
          omega
  | inside =>
      refine iff_of_true (fun closed => ?_) trivial
      rw [closed] at opened
      cases opened

theorem nodes_adds {r : NodeRecord} (known : Represents b s) (adds : b.Adds r b') :
    b'.nodes.toList = s.records [s.size] ++ [r] := by
  rw [adds.nodes, known.nodes, known.parent?, known.size, s.records_listChild]

theorem start (known : Represents b s) (room : s.HasRoom) {kind : Kind}
    (composite : kind.isToken = false) (given? : Option (String × Span)) :
    ∃ b', b.perform (.start kind given?) = .ok (some s.size, b') ∧
      Represents b' (.inside s b.pendingField? kind given? []) ∧ b'.pendingField? = none := by
  obtain ⟨b', started, adds, opened, lastSpan⟩ :=
    Builder.perform_start_of_room composite (known.hasRoom_iff.2 room) given?
  refine ⟨b', ?_, ⟨?_, ?_, ?_, ?_⟩, adds.pendingField?⟩
  · rw [started, known.size]
  · rw [known.nodes_adds adds, known.parent?]
    rfl
  · rw [opened, known.size, known.opened]
    rfl
  · rw [lastSpan, known.lastSpan]
    rfl
  · exact .inside known.valid room composite (by simp)

theorem token (known : Represents b s) (room : s.HasRoom) {kind : Kind} (token : kind.isToken)
    (rawKind? : Option String) (text : String) (span : Span) :
    ∃ b', b.perform (.token kind rawKind? text span) = .ok (some s.size, b') ∧
      Represents b' (s.add (.leaf b.pendingField? kind rawKind? text span)) ∧
      b'.pendingField? = none := by
  obtain ⟨b', added, adds, opened, lastSpan⟩ :=
    Builder.perform_token_of_room token (known.hasRoom_iff.2 room) rawKind? text span
  refine ⟨b', ?_, ⟨?_, ?_, ?_, ?_⟩, adds.pendingField?⟩
  · rw [added, known.size]
  · rw [known.nodes_adds adds, known.parent?, s.records_add]
    rfl
  · rw [opened, known.opened, s.opened_add]
  · rw [lastSpan, s.lastSpan_add]
    rfl
  · exact known.valid.add room (.leaf token)

theorem derivedSpan {outer : Scaffold} {field? : Option String} {kind : Kind}
    {given? : Option (String × Span)} {trees : List Nested}
    (known : Represents b (.inside outer field? kind given? trees)) :
    b.derivedSpan outer.size =
      spanAround (settleAll outer.lastSpan trees).2 (settleAll outer.lastSpan trees).1 := by
  have lastSpan : b.lastSpan = (settleAll outer.lastSpan trees).2 := known.lastSpan
  have placed := outer.length_records [outer.size]
  have nodes := known.nodes
  rw [Scaffold.records, List.append_nil] at nodes
  rw [← lastSpan]
  apply Builder.derivedSpan_eq
  · rw [← Array.getElem?_toList, nodes, List.getElem?_append_right (Nat.le_of_eq placed), placed,
      Nat.sub_self]
    rfl
  · rw [← places_settleAll (outer.size + 1) outer.lastSpan trees]
    have front : (outer.records [outer.size] ++ [composite outer.parent? field? kind given?
        (places (outer.size + 1) trees)]).length = outer.size + 1 := by
      rw [List.length_append, placed, List.length_singleton]
    have read := spans_at_places (settleAll outer.lastSpan trees).1 _
      (show b.nodes.toList = _ ++ layAll (some outer.size) _ _ ++ [] by
        rw [nodes, front, List.append_nil, List.append_assoc, List.singleton_append])
    rwa [front] at read

theorem finishNode {outer : Scaffold} {field? : Option String} {kind : Kind}
    {given? : Option (String × Span)} {trees : List Nested}
    (known : Represents b (.inside outer field? kind given? trees)) :
    ∃ b', b.perform .finishNode = .ok (some outer.size, b') ∧
      Represents b' (outer.add (.node field? kind given? trees)) ∧
      b'.pendingField? = b.pendingField? := by
  have derived := known.derivedSpan
  have nodes := known.nodes
  rw [Scaffold.records, List.append_nil] at nodes
  obtain ⟨b', closed, left, opened, pendingField?, lastSpan⟩ :=
    Builder.finishNode_of_opened known.opened
  refine ⟨b', ?_, ⟨?_, ?_, ?_, ?_⟩, pendingField?⟩
  · rw [Builder.perform, closed]
    rfl
  · rw [left, outer.records_add, settle, lay, places_settleAll]
    cases given? with
    | some given => exact nodes
    | none =>
        dsimp only [Option.isSome_none]
        rw [if_neg Bool.false_ne_true, nodes, derived]
        have here := modify_length_append (outer.records [outer.size])
        rw [outer.length_records] at here
        exact here _ _ _
  · rw [opened, outer.opened_add]
  · rw [lastSpan, known.lastSpan, outer.lastSpan_add]
    rfl
  · cases known.valid with
    | inside valid room composite kinds => exact valid.add room (.node composite kinds)

theorem perform {call : Builder.Call} {answer : Option Nat} (known : Represents b s)
    (made : b.perform call = .ok (answer, b')) :
    ∃ s', Represents b' s' ∧ ∀ rest,
      s.steps ++ Step.ofCalls b.pendingField? (call :: rest) =
        s'.steps ++ Step.ofCalls b'.pendingField? rest := by
  cases call with
  | field name =>
      cases made
      exact ⟨s, ⟨known.nodes, known.opened, known.lastSpan, known.valid⟩, fun _ => rfl⟩
  | markError =>
      cases made
      exact ⟨s, ⟨known.nodes, known.opened, known.lastSpan, known.valid⟩, fun _ => rfl⟩
  | start kind given? =>
      obtain ⟨composite, room⟩ := Builder.room_of_perform_start made
      obtain ⟨left, started, represents, pending⟩ :=
        known.start (known.hasRoom_iff.1 room) composite given?
      rw [started] at made
      cases made
      refine ⟨_, represents, fun rest => ?_⟩
      simp only [Scaffold.steps, stepsAll, Step.ofCalls, pending, List.append_assoc,
        List.cons_append, List.nil_append]
  | token kind rawKind? text span =>
      obtain ⟨token, room⟩ := Builder.room_of_perform_token made
      obtain ⟨left, added, represents, pending⟩ :=
        known.token (known.hasRoom_iff.1 room) token rawKind? text span
      rw [added] at made
      cases made
      refine ⟨_, represents, fun rest => ?_⟩
      simp only [s.steps_add, Nested.steps, Step.ofCalls, pending, List.append_assoc,
        List.cons_append, List.nil_append]
  | finishNode =>
      cases s with
      | ground trees =>
          rw [Builder.perform, Builder.finishNode_of_closed known.opened] at made
          cases made
      | inside outer field? kind given? trees =>
          obtain ⟨left, closed, represents, pending⟩ := known.finishNode
          rw [closed] at made
          cases made
          refine ⟨_, represents, fun rest => ?_⟩
          simp only [outer.steps_add, Scaffold.steps, Nested.steps, Step.ofCalls, pending,
            List.append_assoc, List.cons_append, List.nil_append]

theorem attemptAll (calls : List Builder.Call) (known : Represents b s) :
    ∃ s', Represents (b.attemptAll calls) s' ∧
      s.steps ++ Step.ofCalls b.pendingField? (b.succeeding calls) = s'.steps := by
  induction calls generalizing b s with
  | nil => exact ⟨s, known, List.append_nil _⟩
  | cons call rest ih =>
      rw [Builder.attemptAll, Builder.succeeding]
      cases made : b.perform call with
      | error e => exact ih known
      | ok answer =>
          obtain ⟨s', represents, taken⟩ := known.perform made
          obtain ⟨final, reached, all⟩ := ih represents
          exact ⟨final, reached, (taken _).trans all⟩

theorem finish {t : Tree} (known : Represents b s) (finished : b.finish = .ok t) :
    ∃ root, s = .ground [root] ∧ root.WellKinded ∧
      t.nodes.toList = lay none 0 (settle .empty root).1 := by
  obtain ⟨closed, nodes⟩ := Builder.finish_eq_ok finished
  have records := known.nodes
  have opened := known.opened
  have valid := known.valid
  have some := t.nonempty
  rw [← nodes] at records
  cases valid with
  | inside =>
      rw [closed] at opened
      cases opened
  | @ground trees single kinds =>
      match trees with
      | [] =>
          rw [← Array.length_toList, records] at some
          cases some
      | [root] =>
          refine ⟨root, rfl, kinds root (List.mem_singleton_self root), ?_⟩
          rw [records, Scaffold.records]
          exact List.append_nil _
      | _ :: _ :: _ => simp at single

end Represents

/-- Calls that build a tree take the steps of a nested tree, whose records the tree has. -/
theorem exists_nested_of_finish {id : TreeId} {calls : List Builder.Call} {t : Tree}
    (finished : ((Builder.new id).attemptAll calls).finish = .ok t) :
    ∃ root : Nested, root.WellKinded ∧
      Step.ofCalls none ((Builder.new id).succeeding calls) = root.steps ∧
      t.nodes.toList = lay none 0 (settle .empty root).1 := by
  obtain ⟨s, represents, taken⟩ := (Represents.new id).attemptAll calls
  obtain ⟨root, rfl, kinds, records⟩ := represents.finish finished
  exact ⟨root, kinds, taken.trans (List.append_nil _), records⟩

end TreeLint.Tree
