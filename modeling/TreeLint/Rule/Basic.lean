import TreeLint.Rule.Scan
import TreeLint.Traversal.Walk

namespace TreeLint

structure Metadata where
  key : String
  name : String
  description : String
  tags : List String
  severity : Severity
  activatedByDefault : Bool
  /-- The effort of mending one issue, such as `5min`. -/
  remediation? : Option String
  deriving DecidableEq, Repr

def Metadata.new (key name : String) : Metadata where
  key
  name
  description := ""
  tags := []
  severity := .warning
  activatedByDefault := true
  remediation? := none

/-- The hooks of a rule that shares a walk with others. -/
structure Subscriber (σ : Type) where
  /-- The kinds to be called for; asking for them can crash. -/
  kinds : σ → Except Failure (List Kind)
  /-- What asking leaves of the state, for rules that keep count of it. -/
  asked : σ → σ := id
  scanFile : FileInput → Scan σ Unit
  visitNode : (input : FileInput) → input.tree.Node → Scan σ Unit
  leaveNode : (input : FileInput) → input.tree.Node → Scan σ Unit
  leaveFile : FileInput → Scan σ Unit

inductive Behavior (σ : Type) where
  /-- Walks the tree on its own, if at all. -/
  | recursive (scanFile : FileInput → Scan σ Unit)
  | subscription (hooks : Subscriber σ)

namespace Behavior

def visitor (v : (input : FileInput) → Traversal.Visitor input.tree (Scan σ)) : Behavior σ :=
  recursive fun input => Traversal.walk (v input) input.tree.root

def scanFile : Behavior σ → FileInput → Scan σ Unit
  | recursive scanFile => scanFile
  | subscription hooks => hooks.scanFile

def subscriber? : Behavior σ → Option (Subscriber σ)
  | recursive _ => none
  | subscription hooks => some hooks

end Behavior

structure Rule (σ : Type) where
  metadata : Metadata
  behavior : Behavior σ
  state : σ

def Rule.key (r : Rule σ) : String := r.metadata.key

end TreeLint
