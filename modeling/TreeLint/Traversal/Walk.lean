import TreeLint.Tree.Basic

/-! Depth-first walks in document order.  What a visitor keeps, and how it fails, is up to the
monad that its hooks run in. -/

namespace TreeLint.Traversal

variable {t : Tree} {m : Type → Type u} [Monad m]

inductive Descent where
  | children
  | skip
  deriving DecidableEq, Repr

structure Visitor (t : Tree) (m : Type → Type u) where
  enter : t.Node → m Descent
  leave : t.Node → m Unit

inductive Event where
  | enter
  | leave
  deriving DecidableEq, Repr

abbrev Step (t : Tree) := Event × t.Node

/-- How many steps a walk from the node takes at most, and one more. -/
def weight (n : t.Node) : Nat :=
  2 + n.children.attach.foldr (fun c total => weight c.val + total) 0
termination_by t.nodes.size - n.index
decreasing_by
  have hlt := Tree.Node.index_lt_of_mem_children c.property
  have := c.val.isLt
  omega

def Step.weight : Step t → Nat
  | (.enter, n) => Traversal.weight n
  | (.leave, _) => 1

def pending : List (Step t) → Nat
  | [] => 0
  | step :: rest => step.weight + pending rest

@[simp] theorem pending_append (a b : List (Step t)) :
    pending (a ++ b) = pending a + pending b := by
  induction a with
  | nil => simp [pending]
  | cons step rest ih => simp [pending, ih, Nat.add_assoc]

theorem pending_enter (ns : List t.Node) :
    pending (ns.map fun n => (Event.enter, n)) =
      ns.foldr (fun n total => weight n + total) 0 := by
  induction ns with
  | nil => rfl
  | cons n rest ih => simp [pending, Step.weight, ih]

theorem weight_eq (n : t.Node) :
    weight n = 2 + pending (n.children.map fun c => (Event.enter, c)) := by
  rw [weight, pending_enter, List.foldr_attach (f := fun c total => weight c + total)]

def walkSteps (v : Visitor t m) : List (Step t) → m Unit
  | [] => pure ()
  | (.enter, n) :: rest => do
      match ← v.enter n with
      | .children => walkSteps v (n.children.map (fun c => (.enter, c)) ++ (.leave, n) :: rest)
      | .skip => walkSteps v ((.leave, n) :: rest)
  | (.leave, n) :: rest => do
      v.leave n
      walkSteps v rest
termination_by steps => pending steps
decreasing_by
  · simp only [pending_append, pending, Step.weight, weight_eq n]
    omega
  · simp only [pending, Step.weight, weight_eq n]
    omega
  · simp [pending, Step.weight]

/-- Enters the node, walks its children unless told to skip them, and leaves it. -/
def walk (v : Visitor t m) (n : t.Node) : m Unit := walkSteps v [(.enter, n)]

/-- The same walk by recursion on the tree. -/
def visit (v : Visitor t m) (n : t.Node) : m Unit := do
  match ← v.enter n with
  | .children => n.children.attach.forM fun c => visit v c.val
  | .skip => pure ()
  v.leave n
termination_by t.nodes.size - n.index
decreasing_by
  have hlt := Tree.Node.index_lt_of_mem_children c.property
  have := c.val.isLt
  omega

inductive Hook where
  | compilationUnit
  | typeDeclaration
  | callable
  | block
  | statement
  | token
  | other
  deriving DecidableEq, Repr

def Hook.of (n : t.Node) : Hook :=
  if n.kind = .compilationUnit then .compilationUnit
  else if n.kind.isTypeDeclaration then .typeDeclaration
  else if n.kind.isCallable then .callable
  else if n.kind = .block then .block
  else if n.kind.isStatement then .statement
  else if n.isLeaf then .token
  else .other

def Visitor.ofHooks (enter : Hook → t.Node → m Descent) (leave : t.Node → m Unit) :
    Visitor t m where
  enter n := enter (Hook.of n) n
  leave := leave

end TreeLint.Traversal
