/-! Reading a YAML text character by character.  Lines are counted, and every sort of line break
reads as one character. -/

namespace TreeLint.Yaml

/-- Why a text is not one YAML document of the expected shape. -/
structure Error where
  message : String
  deriving DecidableEq, Repr

def fail (message : String) : Except Error α := .error ⟨message⟩

def isBreak (c : Char) : Bool :=
  c == '\n' || c == '\r' || c.toNat == 0x85 || c.toNat == 0x2028 || c.toNat == 0x2029

def isGap (c : Char) : Bool := c == ' ' || c == '\t'

/-- Whether a place with this character, or with none, ends a word. -/
def endsWord : Option Char → Bool
  | none => true
  | some c => isGap c || isBreak c

def isAllowed (c : Char) : Bool :=
  let n := c.toNat
  n == 9 || n == 10 || n == 13 || (0x20 ≤ n && n ≤ 0x7e) || n == 0x85 ||
    (0xa0 ≤ n && n ≤ 0xd7ff) || (0xe000 ≤ n && n ≤ 0xfffd) || 0x10000 ≤ n

structure Cursor where
  rest : List Char
  index : Nat
  line : Nat
  column : Nat
  deriving Repr

namespace Cursor

def start (text : List Char) : Cursor := ⟨text, 0, 0, 0⟩

def peek (c : Cursor) : Option Char := c.rest.head?

def peekAt (c : Cursor) (n : Nat) : Option Char := c.rest[n]?

def sees (c : Cursor) (x : Char) : Bool := c.peek == some x

def atGap (c : Cursor) : Bool := c.peek.any isGap

def atBreak (c : Cursor) : Bool := c.peek.any isBreak

def atWordEnd (c : Cursor) : Bool := endsWord c.peek

/-- The next character and the cursor behind it.  Carriage returns and next-line characters
read as line feeds. -/
def next (c : Cursor) : Option (Char × Cursor) :=
  match c.rest with
  | [] => none
  | '\r' :: '\n' :: rest => some ('\n', ⟨rest, c.index + 2, c.line + 1, 0⟩)
  | x :: rest =>
      if isBreak x then
        let read := if x == '\r' || x.toNat == 0x85 then '\n' else x
        some (read, ⟨rest, c.index + 1, c.line + 1, 0⟩)
      else some (x, ⟨rest, c.index + 1, c.line, c.column + 1⟩)

def skip : Nat → Cursor → Cursor
  | 0, c => c
  | n + 1, c =>
      match c.next with
      | some (_, c) => skip n c
      | none => c

def takeWhile (test : Char → Bool) : Nat → Cursor → List Char × Cursor
  | 0, c => ([], c)
  | fuel + 1, c =>
      match c.next with
      | some (x, behind) =>
          if c.peek.any test then
            let (more, c) := takeWhile test fuel behind
            (x :: more, c)
          else ([], c)
      | none => ([], c)

def span (test : Char → Bool) (c : Cursor) : List Char × Cursor :=
  c.takeWhile test c.rest.length

def skipWhile (test : Char → Bool) (c : Cursor) : Cursor := (c.span test).2

def atMark (c : Cursor) (mark : Char) : Bool :=
  c.column == 0 && c.peekAt 0 == some mark && c.peekAt 1 == some mark &&
    c.peekAt 2 == some mark && endsWord (c.peekAt 3)

def atDocumentMark (c : Cursor) : Bool := c.atMark '-' || c.atMark '.'

end Cursor

end TreeLint.Yaml
