import TreeLint.Suppression.Directive

namespace TreeLint

structure FileFailure where
  file : String
  error : String
  deriving DecidableEq, Repr

structure AnalysisResult where
  issues : List Issue
  suppressed : List SuppressedIssue
  faults : List RuleFault
  failures : List FileFailure
  /-- How many files were analyzed. -/
  scanned : Nat
  /-- How many of them without a symbol table. -/
  unresolved : Nat
  deriving DecidableEq, Repr

namespace AnalysisResult

def empty : AnalysisResult := ⟨[], [], [], [], 0, 0⟩

def merge (a b : AnalysisResult) : AnalysisResult where
  issues := a.issues ++ b.issues
  suppressed := a.suppressed ++ b.suppressed
  faults := a.faults ++ b.faults
  failures := a.failures ++ b.failures
  scanned := a.scanned + b.scanned
  unresolved := a.unresolved + b.unresolved

def mergeAll (results : List AnalysisResult) : AnalysisResult := results.foldl merge empty

/-- Issues by position, faults by file and rule, failures by file; suppressed issues keep their
order. -/
def sort (r : AnalysisResult) : AnalysisResult :=
  { r with
    issues := r.issues.mergeSort fun a b => (a.comparePosition b).isLE
    faults := r.faults.mergeSort fun a b =>
      ((compare a.file b.file).then (compare a.rule b.rule)).isLE
    failures := r.failures.mergeSort fun a b => (compare a.file b.file).isLE }

def hasErrors (r : AnalysisResult) : Bool := r.issues.any (·.severity == .error)

def isIncomplete (r : AnalysisResult) : Bool := !r.faults.isEmpty || !r.failures.isEmpty

def count (r : AnalysisResult) (severity : Severity) : Nat :=
  (r.issues.filter (·.severity == severity)).length

end AnalysisResult

end TreeLint
