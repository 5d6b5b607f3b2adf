import TreeLint.Analysis.Result
import TreeLint.Json.Basic
import TreeLint.Rule.Basic

namespace TreeLint

open Json

def Span.toJson (s : Span) : Json :=
  .object [
    ("start_byte", nat s.startByte), ("end_byte", nat s.endByte),
    ("start_line", nat s.startLine), ("start_col", nat s.startColumn),
    ("end_line", nat s.endLine), ("end_col", nat s.endColumn)]

def Issue.toJson (i : Issue) : Json :=
  .object <|
    [("rule", .string i.rule), ("file", .string i.file), ("line", nat i.line),
      ("column", ofOption nat i.column?)] ++
    optional "span" Span.toJson i.span? ++
    [("message", .string i.message), ("severity", .string i.severity.name)] ++
    optional "cost" .decimal i.cost?

def FaultKind.tag : FaultKind → String
  | error => "error"
  | panic => "panic"
  | invalidAnchor => "invalidanchor"

def RuleFault.members (f : RuleFault) : List (String × Json) :=
  [("rule", .string f.rule), ("file", .string f.file), ("kind", .string f.kind.tag),
    ("message", .string f.message)]

def RuleFault.toJson (f : RuleFault) : Json := .object f.members

def RuleOutcome.toJson : RuleOutcome → Json
  | completed issues => .object [("status", .string "completed"), ("issues", nat issues)]
  | failed fault => .object (("status", .string "failed") :: fault.members)

def RuleRun.toJson (r : RuleRun) : Json :=
  .object [("rule", .string r.rule), ("outcome", r.outcome.toJson)]

def FileReport.toJson (r : FileReport) : Json :=
  .object [
    ("file", .string r.file), ("issues", .array (r.issues.map Issue.toJson)),
    ("runs", .array (r.runs.map RuleRun.toJson))]

def Suppression.toJson (s : Suppression) : Json :=
  .object [
    ("rule", .string s.rule), ("reason", .string s.reason), ("line", nat s.line),
    ("scope", .string s.scope.name)]

def SuppressedIssue.toJson (s : SuppressedIssue) : Json :=
  .object [("issue", s.issue.toJson), ("suppression", s.suppression.toJson)]

def FileFailure.toJson (f : FileFailure) : Json :=
  .object [("file", .string f.file), ("error", .string f.error)]

def AnalysisResult.toJson (r : AnalysisResult) : Json :=
  .object [
    ("issues", .array (r.issues.map Issue.toJson)),
    ("suppressed", .array (r.suppressed.map SuppressedIssue.toJson)),
    ("faults", .array (r.faults.map RuleFault.toJson)),
    ("failures", .array (r.failures.map FileFailure.toJson)),
    ("scanned", nat r.scanned), ("unresolved", nat r.unresolved)]

def Metadata.members (m : Metadata) : List (String × Json) :=
  [("key", .string m.key), ("name", .string m.name), ("description", .string m.description),
    ("tags", .array (m.tags.map .string)), ("severity", .string m.severity.name),
    ("activated_by_default", .bool m.activatedByDefault)] ++
  optional "remediation" .string m.remediation?

def Metadata.toJson (m : Metadata) : Json := .object m.members

end TreeLint
