import TreeLint.Analysis.Result
import TreeLint.Config.RuleSet
import TreeLint.Java.Parser
import TreeLint.Java.Resolution
import TreeLint.Rule.Run

namespace TreeLint

inductive AnalysisError where
  | tree (error : TreeError)
  | run (error : RunError)
  deriving DecidableEq, Repr

inductive SourceError where
  | parse (error : Java.ParseError)
  | run (error : RunError)
  deriving DecidableEq, Repr

def SourceError.message : SourceError → String
  | parse error => error.message
  | run error => error.message

def SourceError.ofAnalysis : AnalysisError → SourceError
  | .tree error => parse (.tree error)
  | .run error => run error

/-- The tree that the rules see.  One file is analyzed at a time. -/
def sourceTreeId : TreeId := ⟨0⟩

/-- What is left of the report on a text once its directives have silenced issues. -/
def AnalysisResult.ofReport (source : String) (resolved : Bool) (report : FileReport) :
    AnalysisResult :=
  let (issues, suppressed) := Suppression.filter report.issues (Suppression.ofSource source)
  { issues
    suppressed
    faults := report.faults
    failures := []
    scanned := 1
    unresolved := if resolved then 0 else 1 }

/-- What the enabled rules find in a tree of the text.  Without symbols they run all the same. -/
def analyzeTree (path source : String) (tree : Tree) (rules : RuleSet) :
    Except RunError AnalysisResult := do
  let symbols? := (Java.resolve tree).toOption
  let (report, _) ← runFile ⟨path, tree, symbols?⟩ rules.rules
  return .ofReport source symbols?.isSome report

def analyzeConcrete (path source : String) (root : Java.Concrete) (rules : RuleSet) :
    Except AnalysisError AnalysisResult := do
  let tree ← (root.lower sourceTreeId).mapError .tree
  (analyzeTree path source tree rules).mapError .run

def analyzeText (p : Java.Parser) (path source : String) (rules : RuleSet) :
    Except SourceError AnalysisResult := do
  let tree ← (p.parse sourceTreeId source).mapError .parse
  (analyzeTree path source tree rules).mapError .run

/-- The same by way of the reader, which leaves one error less. -/
def analyzeSource (path source : String) (rules : RuleSet) :
    Except AnalysisError AnalysisResult :=
  analyzeConcrete path source (Java.concreteTree source) rules

end TreeLint
