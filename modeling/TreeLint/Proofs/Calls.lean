import TreeLint.Tree.Nested

/-! Calls of a builder one after the other, and the calls that a nested tree stands for. -/

namespace TreeLint.Tree

namespace Builder

inductive Call where
  | field (name : String)
  | markError
  /-- The node may have a name and a span of its own. -/
  | start (kind : Kind) (given? : Option (String × Span))
  /-- The leaf may have a name of its own. -/
  | token (kind : Kind) (rawKind? : Option String) (text : String) (span : Span)
  | finishNode

/-- Makes one call.  All but the first two kinds of call answer with a node. -/
def perform (b : Builder) : Call → Except TreeError (Option Nat × Builder)
  | .field name => .ok (none, b.field name)
  | .markError => .ok (none, b.markError)
  | .start kind none => (b.startNode kind).map fun (n, b) => (some n, b)
  | .start kind (some (rawKind, span)) =>
      (b.startSpanned kind rawKind span).map fun (n, b) => (some n, b)
  | .token kind none text span => (b.token kind text span).map fun (n, b) => (some n, b)
  | .token kind (some rawKind) text span =>
      (b.tokenRaw kind rawKind text span).map fun (n, b) => (some n, b)
  | .finishNode => b.finishNode.map fun (n, b) => (some n, b)

def performAll (b : Builder) : List Call → Except TreeError Builder
  | [] => .ok b
  | call :: rest => do
      let (_, b) ← b.perform call
      performAll b rest

def attemptAll (b : Builder) : List Call → Builder
  | [] => b
  | call :: rest =>
      match b.perform call with
      | .ok (_, b) => attemptAll b rest
      | .error _ => attemptAll b rest

def succeeding (b : Builder) : List Call → List Call
  | [] => []
  | call :: rest =>
      match b.perform call with
      | .ok (_, b) => call :: succeeding b rest
      | .error _ => succeeding b rest

/-- A block around a named semicolon, with calls in between that fail. -/
def strayCalls : List Call := [
  .finishNode, .start .semicolon none, .field "dropped", .field "body",
  .start .block (some ("body", .onLine 1 1 9)), .field "end", .token .block none "x" .empty,
  .token .semicolon none ";" (.onLine 1 3 4), .start .other none, .finishNode, .markError,
  .finishNode, .token .semicolon none ";" (.onLine 2 1 2), .finishNode]

@[simp] theorem performAll_append (b : Builder) (front back : List Call) :
    b.performAll (front ++ back) = (do performAll (← b.performAll front) back) := by
  induction front generalizing b with
  | nil => rfl
  | cons call rest ih =>
      rw [List.cons_append, performAll, performAll]
      cases b.perform call with
      | error e => rfl
      | ok answer => exact ih answer.2

theorem performAll_cons_of_ok {b b' : Builder} {call : Call} {answer : Option Nat}
    (made : b.perform call = .ok (answer, b')) (rest : List Call) :
    b.performAll (call :: rest) = b'.performAll rest := by
  rw [performAll, made]
  rfl

theorem performAll_append_of_ok {b b' : Builder} {front : List Call}
    (made : b.performAll front = .ok b') (back : List Call) :
    b.performAll (front ++ back) = b'.performAll back := by
  rw [performAll_append, made]
  rfl

end Builder

/-- A call that adds or closes a node, with the label of the node that it adds. -/
inductive Step where
  | start (field? : Option String) (kind : Kind) (given? : Option (String × Span))
  | token (field? : Option String) (kind : Kind) (rawKind? : Option String) (text : String)
      (span : Span)
  | finish

/-- The calls that add or close nodes.  A node has the last label that was set since the node
before it. -/
def Step.ofCalls (pending? : Option String) : List Builder.Call → List Step
  | [] => []
  | .field name :: rest => ofCalls (some name) rest
  | .markError :: rest => ofCalls pending? rest
  | .start kind given? :: rest => start pending? kind given? :: ofCalls none rest
  | .token kind rawKind? text span :: rest =>
      token pending? kind rawKind? text span :: ofCalls none rest
  | .finishNode :: rest => finish :: ofCalls pending? rest

namespace Nested

/-- Leaves are of token kinds and all other nodes are not. -/
inductive WellKinded : Nested → Prop
  | leaf (token : kind.isToken) : WellKinded (.leaf field? kind rawKind? text span)
  | node (composite : kind.isToken = false) (below : ∀ tree ∈ children, WellKinded tree) :
    WellKinded (.node field? kind given? children)

def labelCalls : Option String → List Builder.Call
  | some name => [.field name]
  | none => []

mutual
def calls : Nested → List Builder.Call
  | leaf field? kind rawKind? text span => labelCalls field? ++ [.token kind rawKind? text span]
  | node field? kind given? children =>
      labelCalls field? ++ .start kind given? :: (callsAll children ++ [.finishNode])

def callsAll : List Nested → List Builder.Call
  | [] => []
  | first :: rest => calls first ++ callsAll rest
end

mutual
def steps : Nested → List Step
  | leaf field? kind rawKind? text span => [.token field? kind rawKind? text span]
  | node field? kind given? children =>
      .start field? kind given? :: (stepsAll children ++ [.finish])

def stepsAll : List Nested → List Step
  | [] => []
  | first :: rest => steps first ++ stepsAll rest
end

@[simp] theorem stepsAll_concat (front : List Nested) (tree : Nested) :
    stepsAll (front ++ [tree]) = stepsAll front ++ tree.steps := by
  induction front with
  | nil => simp only [List.nil_append, stepsAll, List.append_nil]
  | cons first rest ih => simp only [List.cons_append, stepsAll, ih, List.append_assoc]

mutual
theorem ofCalls_calls (rest : List Builder.Call) :
    (tree : Nested) → Step.ofCalls none (tree.calls ++ rest) = tree.steps ++ Step.ofCalls none rest
  | leaf field? _ _ _ _ => by cases field? <;> rfl
  | node field? kind given? children => by
      have below := ofCalls_callsAll (.finishNode :: rest) children
      have opened : Step.ofCalls none ((node field? kind given? children).calls ++ rest) =
          .start field? kind given? ::
            Step.ofCalls none (callsAll children ++ .finishNode :: rest) := by
        rw [List.append_cons, calls]
        cases field? <;> simp [labelCalls, Step.ofCalls]
      rw [opened, below]
      simp [steps, Step.ofCalls]

theorem ofCalls_callsAll (rest : List Builder.Call) :
    (trees : List Nested) →
      Step.ofCalls none (callsAll trees ++ rest) = stepsAll trees ++ Step.ofCalls none rest
  | [] => rfl
  | first :: others => by
      rw [callsAll, stepsAll, List.append_assoc, ofCalls_calls _ first,
        ofCalls_callsAll rest others, List.append_assoc]
end

end Nested

end TreeLint.Tree
