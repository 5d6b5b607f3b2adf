import TreeLint.Traversal.Walk

/-! One walk shared by many subscribers, each of which sees only the kinds it asked for. -/

namespace TreeLint.Traversal

variable {t : Tree} {m : Type → Type u} [Monad m]

inductive Verdict where
  | continue
  | detach
  deriving DecidableEq, Repr

/-- The subscribers of each kind, by their place in the list of subscriptions. -/
structure Roster where
  size : Nat
  entries : List (Kind × List Nat)
  deriving Repr

namespace Roster

/-- Adds a subscriber to a kind.  Subscribers come in increasing order, so one that repeats a
kind is the last of the kind's list already. -/
def register (subscriber : Nat) (entries : List (Kind × List Nat)) (kind : Kind) :
    List (Kind × List Nat) :=
  match entries with
  | [] => [(kind, [subscriber])]
  | (k, subscribers) :: rest =>
      if k = kind then
        if subscribers.getLast? = some subscriber then (k, subscribers) :: rest
        else (k, subscribers ++ [subscriber]) :: rest
      else (k, subscribers) :: register subscriber rest kind

def ofSubscriptions (subscriptions : List (List Kind)) : Roster where
  size := subscriptions.length
  entries := subscriptions.zipIdx.foldl
    (fun entries (kinds, subscriber) => kinds.foldl (register subscriber) entries) []

def isEmpty (r : Roster) : Bool := r.size == 0

def subscribers (r : Roster) (kind : Kind) : List Nat := (r.entries.lookup kind).getD []

/-- Calls the subscribers that have not detached, and answers those that have by now. -/
def notify (call : Nat → m Verdict) (detached : List Nat) : List Nat → m (List Nat)
  | [] => pure detached
  | i :: rest =>
      if detached.contains i then notify call detached rest
      else do
        match ← call i with
        | .continue => notify call detached rest
        | .detach => notify call (i :: detached) rest

def dispatchSteps (r : Roster) (call : Event → Nat → t.Node → m Verdict) (detached : List Nat) :
    List (Step t) → m Unit
  | [] => pure ()
  | (.enter, n) :: rest => do
      let interested := r.subscribers n.kind
      let detached ← notify (fun i => call .enter i n) detached interested
      let enters := n.children.map fun c => (.enter, c)
      if interested.isEmpty then dispatchSteps r call detached (enters ++ rest)
      else dispatchSteps r call detached (enters ++ (.leave, n) :: rest)
  | (.leave, n) :: rest => do
      let detached ← notify (fun i => call .leave i n) detached (r.subscribers n.kind)
      dispatchSteps r call detached rest
termination_by steps => pending steps
decreasing_by
  · simp only [pending_append, pending, Step.weight, weight_eq n]
    omega
  · simp only [pending_append, pending, Step.weight, weight_eq n]
    omega
  · simp [pending, Step.weight]

/-- Walks the tree once below the node and calls each subscriber on both sides of the nodes it
subscribes to, until it detaches. -/
def dispatch (r : Roster) (root : t.Node) (call : Event → Nat → t.Node → m Verdict) : m Unit :=
  if r.entries.isEmpty then pure () else r.dispatchSteps call [] [(.enter, root)]

end Roster

end TreeLint.Traversal
