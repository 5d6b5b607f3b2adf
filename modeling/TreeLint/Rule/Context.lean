import TreeLint.Rule.Sink
import TreeLint.Symbols.Table

/-! What a rule sees of the file that it runs on, and where its reports go. -/

namespace TreeLint

/-- A file as rules see it.  There is no table when its symbols could not be resolved. -/
structure FileInput where
  path : String
  tree : Tree
  symbols? : Option SymbolTable

structure Context where
  input : FileInput
  sink : Sink

namespace Context

def new (input : FileInput) (rule : String) (severity : Severity) : Context :=
  ⟨input, .new rule input.path input.tree.id severity⟩

def report (c : Context) (r : Report) : Except Rejection Unit × Context :=
  let (answer, sink) := c.sink.report r
  (answer, { c with sink })

end Context

end TreeLint
