import TreeLint.Analysis.Result
import TreeLint.Json.Record

namespace TreeLint.Report

open TreeLint.Json

def version : String := "0.1.0"

structure JsonIssue where
  rule : String
  severity : String
  file : String
  line : Nat
  column? : Option Nat
  message : String
  deriving DecidableEq, Repr

structure JsonFault where
  rule : String
  file : String
  kind : String
  message : String
  deriving DecidableEq, Repr

structure JsonFailure where
  file : String
  error : String
  deriving DecidableEq, Repr

structure JsonSuppression where
  rule : String
  reason : String
  line : Nat
  scope : String
  deriving DecidableEq, Repr

structure JsonSuppressedIssue where
  issue : JsonIssue
  suppression : JsonSuppression
  deriving DecidableEq, Repr

structure JsonSummary where
  errors : Nat
  warnings : Nat
  infos : Nat
  deriving DecidableEq, Repr

structure JsonReport where
  version : String
  path : String
  /-- The settings in force, unless they are the defaults. -/
  config? : Option String
  filesScanned : Nat
  filesUnresolved : Nat
  issues : List JsonIssue
  faults : List JsonFault
  failures : List JsonFailure
  suppressed : List JsonSuppressedIssue
  suppressedCount : Nat
  summary : JsonSummary
  deriving DecidableEq, Repr

open Format Field

def JsonIssue.fields : Fields JsonIssue JsonIssue :=
  Fields.into JsonIssue.mk
    |>.field (required "rule" text) (·.rule)
    |>.field (required "severity" text) (·.severity)
    |>.field (required "file" text) (·.file)
    |>.field (required "line" count) (·.line)
    |>.field (optional "column" count) (·.column?)
    |>.field (required "message" text) (·.message)

def JsonFault.fields : Fields JsonFault JsonFault :=
  Fields.into JsonFault.mk
    |>.field (required "rule" text) (·.rule)
    |>.field (required "file" text) (·.file)
    |>.field (required "kind" text) (·.kind)
    |>.field (required "message" text) (·.message)

def JsonFailure.fields : Fields JsonFailure JsonFailure :=
  Fields.into JsonFailure.mk
    |>.field (required "file" text) (·.file)
    |>.field (required "error" text) (·.error)

/-- An empty reason is left out, but has to be there when the record is read. -/
def reasonField : Json.Field String := ⟨"reason", text, String.isEmpty, none⟩

def JsonSuppression.fields : Fields JsonSuppression JsonSuppression :=
  Fields.into JsonSuppression.mk
    |>.field (required "rule" text) (·.rule)
    |>.field reasonField (·.reason)
    |>.field (required "line" count) (·.line)
    |>.field (required "type" text) (·.scope)

def JsonSuppressedIssue.fields : Fields JsonSuppressedIssue JsonSuppressedIssue :=
  Fields.into JsonSuppressedIssue.mk
    |>.field (required "issue" JsonIssue.fields.format) (·.issue)
    |>.field (required "suppression" JsonSuppression.fields.format) (·.suppression)

def JsonSummary.fields : Fields JsonSummary JsonSummary :=
  Fields.into JsonSummary.mk
    |>.field (required "errors" count) (·.errors)
    |>.field (required "warnings" count) (·.warnings)
    |>.field (required "infos" count) (·.infos)

def JsonReport.fields : Fields JsonReport JsonReport :=
  Fields.into JsonReport.mk
    |>.field (required "version" text) (·.version)
    |>.field (required "path" text) (·.path)
    |>.field (optional "config" text) (·.config?)
    |>.field (required "files_scanned" count) (·.filesScanned)
    |>.field (required "files_unresolved" count) (·.filesUnresolved)
    |>.field (required "issues" JsonIssue.fields.format.list) (·.issues)
    |>.field (listed "faults" JsonFault.fields.format) (·.faults)
    |>.field (listed "failures" JsonFailure.fields.format) (·.failures)
    |>.field (listed "suppressed" JsonSuppressedIssue.fields.format) (·.suppressed)
    |>.field (required "suppressed_count" count) (·.suppressedCount)
    |>.field (required "summary" JsonSummary.fields.format) (·.summary)

def jsonIssue (i : Issue) : JsonIssue where
  rule := i.rule
  severity := i.severity.name
  file := i.file
  line := i.line
  column? := i.column?
  message := i.message

def jsonFault (f : RuleFault) : JsonFault := ⟨f.rule, f.file, toString f.kind, f.message⟩

def jsonFailure (f : FileFailure) : JsonFailure := ⟨f.file, f.error⟩

def jsonSuppression (s : Suppression) : JsonSuppression := ⟨s.rule, s.reason, s.line, s.scope.name⟩

def jsonSuppressedIssue (s : SuppressedIssue) : JsonSuppressedIssue :=
  ⟨jsonIssue s.issue, jsonSuppression s.suppression⟩

def jsonReport (path : String) (config? : Option String) (r : AnalysisResult) : JsonReport where
  version := version
  path
  config?
  filesScanned := r.scanned
  filesUnresolved := r.unresolved
  issues := r.issues.map jsonIssue
  faults := r.faults.map jsonFault
  failures := r.failures.map jsonFailure
  suppressed := r.suppressed.map jsonSuppressedIssue
  suppressedCount := r.suppressed.length
  summary := ⟨r.count .error, r.count .warning, r.count .info⟩

def json (path : String) (config? : Option String) (r : AnalysisResult) : Json :=
  JsonReport.fields.format.write (jsonReport path config? r)

def jsonText (path : String) (config? : Option String) (r : AnalysisResult) : String :=
  (json path config? r).pretty ++ "\n"

def readJson (text : String) : Except ReadError JsonReport := JsonReport.fields.format.readText text

end TreeLint.Report
