import TreeLint.Tree.Span

/-! Concrete syntax trees: every token of a source, under the names that the grammar gives to
its phrases. -/

namespace TreeLint.Java

structure Head where
  /-- The grammar's name of the phrase, or the spelling of a token without a name. -/
  raw : String
  named : Bool
  /-- Set for a token that the source lacks and the parser made up. -/
  missing : Bool
  field? : Option String
  text : String
  span : Span
  deriving DecidableEq, Repr

inductive Concrete where
  | node (head : Head) (children : List Concrete)

namespace Concrete

def head : Concrete → Head
  | node head _ => head

def children : Concrete → List Concrete
  | node _ children => children

def raw (c : Concrete) : String := c.head.raw

def span (c : Concrete) : Span := c.head.span

def isComment (c : Concrete) : Bool := c.raw == "line_comment" || c.raw == "block_comment"

def isError (c : Concrete) : Bool := c.raw == "ERROR"

/-- Names the role of a phrase, unless it has one already. -/
def inField (name : String) : Concrete → Concrete
  | node head children => node { head with field? := head.field? <|> some name } children

mutual
def hasError : Concrete → Bool
  | node head children => head.raw == "ERROR" || head.missing || anyError children

def anyError : List Concrete → Bool
  | [] => false
  | first :: rest => hasError first || anyError rest
end

theorem hasError_of_isError {c : Concrete} (isError : c.isError = true) : c.hasError = true := by
  obtain ⟨head, children⟩ := c
  have raw : (head.raw == "ERROR") = true := isError
  rw [hasError, raw, Bool.true_or, Bool.true_or]

theorem hasError_of_missing {c : Concrete} (missing : c.head.missing = true) :
    c.hasError = true := by
  obtain ⟨head, children⟩ := c
  have missing : head.missing = true := missing
  rw [hasError, missing, Bool.or_true, Bool.true_or]

end Concrete

end TreeLint.Java
