import TreeLint.Java.Lowering
import TreeLint.Java.Parse

/-! From sources to trees.  The parser in between is a given one; the reader of this library can
stand in for it. -/

namespace TreeLint.Java

inductive ParserFailure where
  /-- The parser could not load its grammar. -/
  | language (reason : String)
  | noTree
  deriving DecidableEq, Repr

def ParserFailure.message : ParserFailure → String
  | language reason => s!"failed to load the Java grammar: {reason}"
  | noTree => "parser produced no tree"

/-- A parser of Java.  Syntax errors are part of its trees. -/
abbrev Parser := String → Except ParserFailure Concrete

inductive ParseError where
  | parser (failure : ParserFailure)
  | tree (error : TreeError)
  deriving DecidableEq, Repr

def ParseError.message : ParseError → String
  | parser failure => failure.message
  | tree error => s!"malformed syntax tree: {error.message}"

def Parser.parse (p : Parser) (id : TreeId) (source : String) : Except ParseError Tree := do
  let root ← (p source).mapError .parser
  (root.lower id).mapError .tree

namespace Parser

variable {p : Parser} {id : TreeId} {source : String}

theorem parse_of_root {root : Concrete} (parsed : p source = .ok root) :
    p.parse id source = (root.lower id).mapError .tree := by
  rw [parse, parsed]
  rfl

theorem parse_of_failure {failure : ParserFailure} (failed : p source = .error failure) :
    p.parse id source = .error (.parser failure) := by
  rw [parse, failed]
  rfl

end Parser

/-- The parser that comes with the library has a tree for every source. -/
def reader : Parser := fun source => .ok (concreteTree source)

def parse (id : TreeId) (source : String) : Except TreeError Tree :=
  (concreteTree source).lower id

end TreeLint.Java
