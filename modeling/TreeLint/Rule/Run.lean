import TreeLint.Rule.Basic
import TreeLint.Traversal.Subscription

/-! Running rules over one file.  Recursive rules walk the tree one after the other, the others
share one walk; a rule that fails leaves the others alone. -/

namespace TreeLint

open Traversal

inductive RunError where
  | symbolsOfOtherTree (file : String)
  | duplicateRule (key : String)
  deriving DecidableEq, Repr

def RunError.message : RunError → String
  | symbolsOfOtherTree file => s!"semantic model for {file} was resolved from a different tree"
  | duplicateRule key => s!"rule key {key} is registered more than once"

/-- One rule's progress on a file. -/
structure Session (σ : Type) where
  rule : Rule σ
  context : Context
  failure? : Option Failure

namespace Session

def start (input : FileInput) (rule : Rule σ) : Session σ where
  rule
  context := .new input rule.key rule.metadata.severity
  failure? := none

def attempt (s : Session σ) (hook : Scan σ Unit) : Session σ :=
  match (hook s.rule.state).run s.context with
  | (.ok (), state, context) => { s with rule := { s.rule with state }, context }
  | (.error failure, state, context) =>
      { s with rule := { s.rule with state }, context, failure? := some failure }

def scanFile (input : FileInput) (s : Session σ) : Session σ :=
  s.attempt (s.rule.behavior.scanFile input)

/-- The kinds that the rule wants to see.  Rules that walk on their own, and those that have
failed, want none. -/
def subscribe (s : Session σ) : List Kind × Session σ :=
  match s.failure?, s.rule.behavior.subscriber? with
  | none, some hooks =>
      let rule := { s.rule with state := hooks.asked s.rule.state }
      match hooks.kinds s.rule.state with
      | .ok kinds => (kinds, { s with rule })
      | .error failure => ([], { s with rule, failure? := some failure })
  | _, _ => ([], s)

def isOut (s : Session σ) : Bool := s.failure?.isSome || s.context.sink.violation?.isSome

def visit (input : FileInput) (event : Event) (n : input.tree.Node) (s : Session σ) :
    Session σ :=
  match s.rule.behavior.subscriber? with
  | none => s
  | some hooks =>
      match event with
      | .enter => s.attempt (hooks.visitNode input n)
      | .leave => s.attempt (hooks.leaveNode input n)

def leaveFile (input : FileInput) (s : Session σ) : Session σ :=
  match s.failure?, s.rule.behavior.subscriber? with
  | none, some hooks => s.attempt (hooks.leaveFile input)
  | _, _ => s

/-- A refused report outweighs any other failure.  Only a rule without either keeps its
issues. -/
def finish (input : FileInput) (s : Session σ) : RuleOutcome × List Issue :=
  let fault? := match s.context.sink.violation?, s.failure? with
    | some violation, _ => some (FaultKind.invalidAnchor, violation.message)
    | none, some failure => some (failure.kind, failure.message)
    | none, none => none
  match fault? with
  | some (kind, message) => (.failed ⟨s.rule.key, input.path, kind, message⟩, [])
  | none => (.completed s.context.sink.issues.size, s.context.sink.issues.toList)

end Session

def duplicateKey? (seen : List String) : List (Rule σ) → Option String
  | [] => none
  | rule :: rest =>
      if seen.contains rule.key then some rule.key else duplicateKey? (rule.key :: seen) rest

def FileInput.check (input : FileInput) (rules : List (Rule σ)) : Except RunError Unit :=
  if input.symbols?.any (·.tree ≠ input.tree.id) then .error (.symbolsOfOtherTree input.path)
  else
    match duplicateKey? [] rules with
    | some key => .error (.duplicateRule key)
    | none => .ok ()

/-- The call of one subscriber from the shared walk. -/
def callSession (input : FileInput) (event : Event) (index : Nat) (n : input.tree.Node) :
    StateM (Array (Session σ)) Verdict := do
  match (← get)[index]? with
  | none => return .detach
  | some s =>
      if s.isOut then return .detach
      let s := s.visit input event n
      modify (·.setIfInBounds index s)
      return if s.failure?.isSome then .detach else .continue

def sharedWalk (input : FileInput) (sessions : List (Session σ)) : List (Session σ) :=
  let subscribed := sessions.map (·.subscribe)
  let roster := Roster.ofSubscriptions (subscribed.map (·.1))
  let walk := roster.dispatch input.tree.root (callSession input)
  (walk.run (subscribed.map (·.2)).toArray).2.toList

def report (input : FileInput) (sessions : List (Session σ)) : FileReport where
  file := input.path
  issues := sessions.flatMap fun s => (s.finish input).2
  runs := sessions.map fun s => ⟨s.rule.key, (s.finish input).1⟩

/-- Runs the rules, and answers the report and the rules in the states that they ended in. -/
def runFile (input : FileInput) (rules : List (Rule σ)) :
    Except RunError (FileReport × List (Rule σ)) := do
  input.check rules
  let scanned := rules.map fun rule => (Session.start input rule).scanFile input
  let sessions := (sharedWalk input scanned).map (·.leaveFile input)
  return (report input sessions, sessions.map (·.rule))

end TreeLint
