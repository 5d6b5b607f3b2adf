import TreeLint.Rule.Context

/-! What a rule's hooks can do: keep a state of the rule's own, report, read their context or put a
new one in its place, and fail.  A hook that fails keeps what it had reached. -/

namespace TreeLint

inductive Failure where
  /-- An error with its causes, the outermost first. -/
  | error (causes : List String)
  /-- A crash, with its text if it has one. -/
  | panic (text? : Option String)
  deriving DecidableEq, Repr

namespace Failure

def kind : Failure → FaultKind
  | error _ => .error
  | panic _ => .panic

def message : Failure → String
  | error causes => String.intercalate ": " causes
  | panic text? => text?.getD "rule panicked"

end Failure

inductive Script (σ α : Type) where
  | done (state : σ) (value : α)
  | fail (state : σ) (failure : Failure)
  | report (r : Report) (resume : Except Rejection Unit → Script σ α)
  | read (resume : Context → Script σ α)
  /-- Puts a new context in the place of the one before, with which its reports are lost. -/
  | renew (input : FileInput) (rule : String) (severity : Severity) (resume : Script σ α)

namespace Script

def bind (x : Script σ α) (f : α → σ → Script σ β) : Script σ β :=
  match x with
  | done state value => f value state
  | fail state failure => fail state failure
  | report r resume => report r fun answer => (resume answer).bind f
  | read resume => read fun context => (resume context).bind f
  | renew input rule severity resume => renew input rule severity (resume.bind f)

def run (x : Script σ α) (context : Context) : Except Failure α × σ × Context :=
  match x with
  | done state value => (.ok value, state, context)
  | fail state failure => (.error failure, state, context)
  | report r resume =>
      let (answer, context) := context.report r
      (resume answer).run context
  | read resume => (resume context).run context
  | renew input rule severity resume => resume.run (.new input rule severity)

end Script

/-- A hook, as a script that depends on the rule's state. -/
def Scan (σ α : Type) : Type := σ → Script σ α

namespace Scan

instance : Monad (Scan σ) where
  pure a := fun state => .done state a
  bind x f := fun state => (x state).bind f

def getState : Scan σ σ := fun state => .done state state

def setState (state : σ) : Scan σ Unit := fun _ => .done state ()

def fail (failure : Failure) : Scan σ α := fun state => .fail state failure

def tryReport (r : Report) : Scan σ (Except Rejection Unit) := fun state =>
  .report r fun answer => .done state answer

def report (r : Report) : Scan σ Unit := do
  match ← tryReport r with
  | .ok () => pure ()
  | .error e => fail (.error [e.message])

def addIssue {t : Tree} (n : t.Node) (message : String) : Scan σ Unit :=
  report ⟨.node n, message, none⟩

def addLineIssue (line : Nat) (message : String) : Scan σ Unit :=
  report ⟨.line line, message, none⟩

def context : Scan σ Context := fun state => .read fun context => .done state context

def issues : Scan σ (Array Issue) := do return (← context).sink.issues

def renewContext (input : FileInput) (rule : String) (severity : Severity) : Scan σ Unit :=
  fun state => .renew input rule severity (.done state ())

end Scan

end TreeLint
