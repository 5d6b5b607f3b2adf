import TreeLint.Java.Concrete
import TreeLint.Java.Lexeme

/-! Grammars as data, and how a grammar reads lexemes.  Of several options the first that fits is
taken; phrases that nest to the left are chains that grow at their end. -/

namespace TreeLint.Java

inductive Terminal where
  /-- A word without a name of its own. -/
  | keyword (text : String)
  /-- A word with a name of its own. -/
  | keywordAs (raw text : String)
  /-- Any word but the reserved ones. -/
  | name (raw : String) (reserved : List String)
  | symbol (text : String)
  /-- Lexemes without gaps that make one token, if that token does not go on. -/
  | joined (parts : List String)
  | literal
  /-- A part of a string. -/
  | content
  /-- A part of a text block that leaves no trace. -/
  | hidden
  deriving DecidableEq, Repr

/-- How a chain grows: what it has grown to becomes the first child of a new node. -/
structure Growth (F : Type) where
  /-- The names of the phrases that it can follow; any if there are none. -/
  after : List String
  raw : String
  /-- The field of the first child. -/
  first? : Option String
  rest : F

inductive Form (P : Type) where
  | terminal (t : Terminal)
  | phrase (p : P)
  | seq (items : List (Form P))
  | choice (options : List (Form P))
  | many (item : Form P)
  | node (raw : String) (body : Form P)
  | field (name : String) (body : Form P)
  | chain (first : Form P) (growths : List (Growth (Form P)))
  /-- A body that has to be one phrase of the given names. -/
  | only (raws : List String) (body : Form P)
  /-- Nothing, unless one of the words or symbols is next. -/
  | barring (texts : List String)

namespace Form

def optional (f : Form P) : Form P := choice [f, seq []]

def many1 (f : Form P) : Form P := seq [f, many f]

def sepBy1 (separator : String) (f : Form P) : Form P :=
  seq [f, many (seq [terminal (.symbol separator), f])]

def sepBy (separator : String) (f : Form P) : Form P := optional (sepBy1 separator f)

end Form

namespace Lexeme

def leaf (x : Lexeme) (raw : String) (named : Bool) : Concrete :=
  .node ⟨raw, named, false, none, x.text, x.span⟩ []

def isWord (x : Lexeme) (text : String) : Bool := x.sort == .word && x.text == text

def isAny (x : Lexeme) (texts : List String) : Bool :=
  (x.sort == .word || x.sort == .symbol) && texts.contains x.text

/-- The comments in front, as leaves, and the lexemes from the first other one on. -/
def splitComments : List Lexeme → List Concrete × List Lexeme
  | [] => ([], [])
  | x :: rest =>
      match x.sort with
      | .comment raw =>
          let (comments, rest) := splitComments rest
          (x.leaf raw true :: comments, rest)
      | _ => ([], x :: rest)

def goesOn : List Lexeme → Bool
  | x :: _ => x.glued && (x.text.toList.head? == some '>' || x.text.toList.head? == some '=')
  | [] => false

def takeJoined (parts : List String) (glued : Bool) (input : List Lexeme) :
    Option (List Lexeme × List Lexeme) :=
  match parts, input with
  | [], _ => if goesOn input then none else some ([], input)
  | part :: parts, x :: rest =>
      if x.text == part && (x.glued || !glued) then
        (takeJoined parts true rest).map fun (taken, rest) => (x :: taken, rest)
      else none
  | _ :: _, [] => none

end Lexeme

namespace Terminal

/-- The leaf that the terminal makes of a lexeme; inner none for one without a trace. -/
def leafOf (t : Terminal) (x : Lexeme) : Option (Option Concrete) :=
  match t, x.sort with
  | keyword text, .word => if x.text == text then some (x.leaf text false) else none
  | keywordAs raw text, .word => if x.text == text then some (x.leaf raw true) else none
  | name raw reserved, .word => if reserved.contains x.text then none else some (x.leaf raw true)
  | symbol text, .symbol => if x.text == text then some (x.leaf text false) else none
  | literal, .literal raw => some (x.leaf raw true)
  | content, .content raw => some (x.leaf raw true)
  | hidden, .hidden => some none
  | _, _ => none

def read (t : Terminal) (input : List Lexeme) : Option (List Concrete × List Lexeme) :=
  let (comments, input) := Lexeme.splitComments input
  match t, input with
  | joined parts, _ =>
      match Lexeme.takeJoined parts false input with
      | some (x :: taken, rest) =>
          let text := String.join ((x :: taken).map (·.text))
          let stop := (taken.getLast?.getD x).span
          some (comments ++ [.node ⟨text, false, false, none, text, x.span.cover stop⟩ []], rest)
      | _ => none
  | _, x :: rest => (t.leafOf x).map fun leaf? => (comments ++ leaf?.toList, rest)
  | _, [] => none

end Terminal

namespace Concrete

/-- A phrase around the children.  Comments in front of the first child stay outside. -/
def wrap (raw : String) (children : List Concrete) : List Concrete :=
  let comments := children.takeWhile isComment
  match children.dropWhile isComment with
  | [] => comments
  | first :: rest =>
      let stop := (rest.getLast?.getD first).span
      comments ++
        [.node ⟨raw, true, false, none, "", first.span.cover stop⟩ (first :: rest)]

def labelAll (name : String) (phrases : List Concrete) : List Concrete :=
  phrases.map fun c => if c.isComment then c else c.inField name

def soleRaw? (phrases : List Concrete) : Option String :=
  match phrases.filter (!·.isComment) with
  | [c] => some c.raw
  | _ => none

end Concrete

namespace Form

variable {P : Type} (grammar : P → Form P)

mutual
/-- Reads the form off the front of the lexemes, and answers the phrases and the rest.  The
fuel bounds how deep phrases nest. -/
def read (fuel : Nat) (form : Form P) (input : List Lexeme) :
    Option (List Concrete × List Lexeme) :=
  match fuel with
  | 0 => none
  | fuel + 1 =>
      match form with
      | terminal t => t.read input
      | phrase p => read fuel (grammar p) input
      | seq [] => some ([], input)
      | seq (first :: others) => do
          let (found, rest) ← read fuel first input
          let (more, rest) ← read fuel (seq others) rest
          return (found ++ more, rest)
      | choice [] => none
      | choice (first :: others) =>
          match read fuel first input with
          | some result => some result
          | none => read fuel (choice others) input
      | many item =>
          match read fuel item input with
          | none => some ([], input)
          | some (found, rest) => do
              let (more, rest) ← read fuel (many item) rest
              return (found ++ more, rest)
      | node raw body => do
          let (found, rest) ← read fuel body input
          return (Concrete.wrap raw found, rest)
      | field name body => do
          let (found, rest) ← read fuel body input
          return (Concrete.labelAll name found, rest)
      | chain first growths => do
          let (found, rest) ← read fuel first input
          grow fuel growths found rest
      | only raws body => do
          let (found, rest) ← read fuel body input
          if (Concrete.soleRaw? found).any raws.contains then some (found, rest) else none
      | barring texts =>
          if (Lexeme.splitComments input).2.head?.any (·.isAny texts) then none
          else some ([], input)

def grow (fuel : Nat) (growths : List (Growth (Form P))) (found : List Concrete)
    (input : List Lexeme) : Option (List Concrete × List Lexeme) :=
  match fuel with
  | 0 => none
  | fuel + 1 =>
      let next := growths.findSome? fun g =>
        if g.after.isEmpty || (Concrete.soleRaw? found).any g.after.contains then
          (read fuel g.rest input).map (g, ·)
        else none
      match next with
      | none => some (found, input)
      | some (g, more, rest) =>
          let first := match g.first? with
            | some name => Concrete.labelAll name found
            | none => found
          grow fuel growths (Concrete.wrap g.raw (first ++ more)) rest
end

end Form

end TreeLint.Java
