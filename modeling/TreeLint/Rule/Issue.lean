import TreeLint.Text.Decimal
import TreeLint.Tree.Span

namespace TreeLint

inductive Severity where
  | error
  | warning
  | info
  deriving DecidableEq, Repr

namespace Severity

def all : List Severity := [error, warning, info]

def name : Severity → String
  | error => "error"
  | warning => "warning"
  | info => "info"

instance : ToString Severity := ⟨name⟩

structure Unknown where
  text : String
  deriving DecidableEq, Repr

def Unknown.message (e : Unknown) : String := s!"unknown severity: {e.text}"

/-- Reads a severity's name in any letter case. -/
def ofText (text : String) : Except Unknown Severity :=
  match all.find? fun s => s.name.toList == text.toList.map Char.toLower with
  | some severity => .ok severity
  | none => .error ⟨text⟩

end Severity

structure Issue where
  rule : String
  file : String
  line : Nat
  /-- None for an issue on a whole line, as for the span. -/
  column? : Option Nat
  span? : Option Span
  message : String
  severity : Severity
  /-- How much the rule thinks that mending it costs. -/
  cost? : Option Decimal
  deriving DecidableEq, Repr

namespace Issue

def column (i : Issue) : Nat := i.column?.getD 0

/-- By line, then by column; issues on a whole line come first. -/
def compareInFile (a b : Issue) : Ordering :=
  (compare a.line b.line).then (compare a.column b.column)

def comparePosition (a b : Issue) : Ordering :=
  (compare a.file b.file).then ((a.compareInFile b).then (compare a.rule b.rule))

end Issue

inductive FaultKind where
  | error
  | panic
  /-- A report against a place outside the file. -/
  | invalidAnchor
  deriving DecidableEq, Repr

instance : ToString FaultKind where
  toString
    | .error => "error"
    | .panic => "panic"
    | .invalidAnchor => "invalid anchor"

structure RuleFault where
  rule : String
  file : String
  kind : FaultKind
  message : String
  deriving DecidableEq, Repr

instance : ToString RuleFault :=
  ⟨fun f => s!"rule {f.rule} failed on {f.file} ({f.kind}): {f.message}"⟩

inductive RuleOutcome where
  | completed (issues : Nat)
  | failed (fault : RuleFault)
  deriving DecidableEq, Repr

def RuleOutcome.fault? : RuleOutcome → Option RuleFault
  | completed _ => none
  | failed fault => some fault

structure RuleRun where
  rule : String
  outcome : RuleOutcome
  deriving DecidableEq, Repr

structure FileReport where
  file : String
  /-- In the order of the rules, and for one rule in the order of its reports. -/
  issues : List Issue
  runs : List RuleRun
  deriving DecidableEq, Repr

namespace FileReport

def faults (r : FileReport) : List RuleFault := r.runs.filterMap (·.outcome.fault?)

def outcome? (r : FileReport) (rule : String) : Option RuleOutcome :=
  (r.runs.find? (·.rule == rule)).map (·.outcome)

def sortedIssues (r : FileReport) : List Issue :=
  r.issues.mergeSort fun a b => (a.compareInFile b).isLE

end FileReport

end TreeLint
