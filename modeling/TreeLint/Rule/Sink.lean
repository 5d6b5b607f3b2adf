import TreeLint.Rule.Issue
import TreeLint.Tree.Basic

/-! The issues of one rule on one file, in the order of its reports. -/

namespace TreeLint

inductive Anchor where
  | node {t : Tree} (n : t.Node)
  | line (number : Nat)

structure Report where
  anchor : Anchor
  message : String
  cost? : Option Decimal

inductive Rejection where
  | foreignAnchor (rule : String)
  | invalidLine (rule : String) (line : Nat)
  deriving DecidableEq, Repr

def Rejection.message : Rejection → String
  | foreignAnchor rule => s!"rule {rule} reported against a node of another file's tree"
  | invalidLine rule line => s!"rule {rule} reported against line {line}; lines start at 1"

structure Sink where
  rule : String
  file : String
  tree : TreeId
  severity : Severity
  issues : Array Issue
  /-- The first refused report, whatever the rule made of the answer. -/
  violation? : Option Rejection
  deriving DecidableEq, Repr

namespace Sink

def new (rule file : String) (tree : TreeId) (severity : Severity) : Sink :=
  ⟨rule, file, tree, severity, #[], none⟩

/-- The place that an anchor stands for in the sink's file. -/
def locate (s : Sink) : Anchor → Except Rejection (Nat × Option Span)
  | .node (t := t) n =>
      if t.id = s.tree then .ok (n.line, some n.span) else .error (.foreignAnchor s.rule)
  | .line number =>
      if number = 0 then .error (.invalidLine s.rule number) else .ok (number, none)

def report (s : Sink) (r : Report) : Except Rejection Unit × Sink :=
  match s.locate r.anchor with
  | .error e => (.error e, { s with violation? := s.violation? <|> some e })
  | .ok (line, span?) =>
      (.ok (), { s with
        issues := s.issues.push {
          rule := s.rule
          file := s.file
          line
          column? := span?.map (·.startColumn)
          span?
          message := r.message
          severity := s.severity
          cost? := r.cost? } })

end Sink

end TreeLint
