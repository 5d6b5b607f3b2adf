import TreeLint.Java.Grammar

/-! Reading a source into its concrete tree.  Where the grammar does not fit, the reader passes
over lexemes up to the next semicolon or brace and tries again behind it. -/

namespace TreeLint.Java

namespace Lexeme

def strayLeaf (x : Lexeme) : Option Concrete :=
  match x.sort with
  | .word => some (x.leaf "identifier" true)
  | .symbol => some (x.leaf x.text false)
  | .literal raw | .comment raw | .content raw => some (x.leaf raw true)
  | .hidden | .blank => none
  | .stray => some (x.leaf "ERROR" true)

def endsRun (x : Lexeme) : Bool :=
  x.sort == .symbol && ["\x7b", "\x7d", ";"].contains x.text

def splitRun : List Lexeme → List Lexeme × List Lexeme
  | [] => ([], [])
  | x :: rest =>
      if x.endsRun then ([x], rest)
      else
        let (run, rest) := splitRun rest
        (x :: run, rest)

theorem splitRun_length (input : List Lexeme) :
    (splitRun input).2.length ≤ input.length - 1 := by
  induction input with
  | nil => simp [splitRun]
  | cons x rest ih =>
      simp only [splitRun]
      split <;> simp
      omega

theorem splitComments_length (input : List Lexeme) :
    (splitComments input).2.length ≤ input.length := by
  induction input with
  | nil => simp [splitComments]
  | cons x rest ih =>
      simp only [splitComments]
      split
      · simp
        omega
      · simp

end Lexeme

/-- Enough fuel for the phrases of so many lexemes: between two lexemes the grammar goes down
through far fewer forms. -/
def readingBudget (lexemeCount : Nat) : Nat := 1000 * (lexemeCount + 1)

def readTopLevel (input : List Lexeme) : Option (List Concrete × List Lexeme) :=
  Form.read Phrase.form (readingBudget input.length) Grammar.topLevel input

def readAll (input : List Lexeme) : List Concrete :=
  match h : Lexeme.splitComments input with
  | (comments, []) => comments
  | (comments, x :: rest) =>
      have hrest : rest.length < input.length := by
        have := Lexeme.splitComments_length input
        simp [h] at this
        omega
      match readTopLevel (x :: rest) with
      | some (found, later) =>
          if later.length < input.length then comments ++ found ++ readAll later
          else comments
      | none =>
          match hrun : Lexeme.splitRun (x :: rest) with
          | (run, later) =>
              have : later.length < input.length := by
                have := Lexeme.splitRun_length (x :: rest)
                simp [hrun] at this
                omega
              let error := Concrete.wrap "ERROR" (run.filterMap Lexeme.strayLeaf)
              comments ++ error ++ readAll later
termination_by input.length

/-- The concrete tree of a source.  It starts where the first lexeme starts and ends where the
source ends. -/
def concreteTree (source : String) : Concrete :=
  let (input, stop) := lexemes source
  let start := (input.head?.map (·.span)).getD (stop.spanTo stop)
  .node ⟨"program", true, false, none, "", start.cover (stop.spanTo stop)⟩ (readAll input)

end TreeLint.Java
