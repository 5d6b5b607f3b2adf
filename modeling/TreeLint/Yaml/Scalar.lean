import TreeLint.Text.Hex
import TreeLint.Yaml.Cursor

namespace TreeLint.Yaml

/-- How a scalar is written.  Only plain ones can mean anything but their text. -/
inductive Style where
  | plain
  | quoted
  | block
  deriving DecidableEq, Repr

/-- White space inside a scalar that is not yet known to belong to it. -/
structure Pending where
  /-- Blanks on one line. -/
  gaps : List Char
  firstBreak? : Option Char
  /-- The line breaks behind the first. -/
  moreBreaks : List Char
  /-- Whether a line has ended in the white space. -/
  lineEnded : Bool

namespace Pending

def none : Pending := ⟨[], Option.none, [], false⟩

def escapedBreak : Pending := ⟨[], Option.none, [], true⟩

def addGap (p : Pending) (c : Char) : Pending :=
  if p.lineEnded then p else { p with gaps := p.gaps ++ [c] }

def addBreak (p : Pending) (c : Char) : Pending :=
  if p.lineEnded then { p with moreBreaks := p.moreBreaks ++ [c] }
  else ⟨[], some c, [], true⟩

/-- What the white space stands for once text follows: a single line break is a blank. -/
def folded (p : Pending) : List Char :=
  if p.lineEnded then
    match p.firstBreak?, p.moreBreaks with
    | some '\n', [] => [' ']
    | some '\n', more => more
    | some c, more => c :: more
    | Option.none, more => more
  else p.gaps

end Pending

def flowIndicators : List Char := [',', '[', ']', '\x7b', '\x7d']

def endsPlain (inFlow : Bool) (c : Cursor) : Bool :=
  (c.sees ':' && endsWord (c.peekAt 1)) || (inFlow && c.peek.any flowIndicators.contains)

def clashesInFlow (inFlow : Bool) (c : Cursor) : Bool :=
  inFlow && c.sees ':' && (c.peekAt 1).any ('?' :: flowIndicators).contains

/-- Reads on in a plain scalar.  Answers its text, and whether a line ended behind it. -/
def plainFrom (inFlow : Bool) (indent : Int) (text : List Char) (p : Pending) :
    Nat → Cursor → Except Error (List Char × Bool × Cursor)
  | 0, c => .ok (text, p.lineEnded, c)
  | fuel + 1, c =>
      match c.next with
      | none => .ok (text, p.lineEnded, c)
      | some (x, behind) =>
          if c.atBreak then plainFrom inFlow indent text (p.addBreak x) fuel behind
          else if isGap x then
            if p.lineEnded && (c.column : Int) < indent && x == '\t' then
              fail "found a tab character that violates indentation"
            else plainFrom inFlow indent text (p.addGap x) fuel behind
          else
            let afterGap := p.lineEnded || !p.gaps.isEmpty
            let stops := afterGap &&
              ((!inFlow && p.lineEnded && (c.column : Int) < indent) || c.atDocumentMark ||
                x == '#')
            if stops then .ok (text, p.lineEnded, c)
            else if clashesInFlow inFlow c then fail "found unexpected ':'"
            else if endsPlain inFlow c then .ok (text, p.lineEnded, c)
            else plainFrom inFlow indent (text ++ p.folded ++ [x]) .none fuel behind

def hexNumber? (digits : List Char) : Option Nat :=
  digits.foldlM (fun n c => (Text.hexValue? c).map (16 * n + ·)) 0

def codedChar (width : Nat) (c : Cursor) : Except Error (Char × Cursor) :=
  let digits := c.rest.take width
  match hexNumber? digits with
  | some n =>
      if digits.length < width then fail "did not find expected hexdecimal number"
      else if h : n.isValidChar then .ok (Char.ofNatAux n h, c.skip width)
      else fail "found invalid Unicode character escape code"
  | none => fail "did not find expected hexdecimal number"

def escapes : List (Char × Nat) :=
  [('0', 0), ('a', 7), ('b', 8), ('t', 9), ('\t', 9), ('n', 10), ('v', 11), ('f', 12), ('r', 13),
    ('e', 27), (' ', 32), ('"', 34), ('/', 47), ('\\', 92), ('N', 0x85), ('_', 0xa0),
    ('L', 0x2028), ('P', 0x2029)]

def readEscape (c : Cursor) : Except Error (Char × Cursor) :=
  match c.peek with
  | some 'x' => codedChar 2 (c.skip 1)
  | some 'u' => codedChar 4 (c.skip 1)
  | some 'U' => codedChar 8 (c.skip 1)
  | some x =>
      match escapes.lookup x with
      | some code => .ok (Char.ofNat code, c.skip 1)
      | none => fail "found unknown escape character"
  | none => fail "found unexpected end of stream"

def quotedFrom (quote : Char) (text : List Char) (p : Pending) :
    Nat → Cursor → Except Error (List Char × Cursor)
  | 0, _ => fail "found unexpected end of stream"
  | fuel + 1, c =>
      if c.atDocumentMark then fail "found unexpected document indicator"
      else
        match c.next with
        | none => fail "found unexpected end of stream"
        | some (x, behind) =>
            if c.atBreak then quotedFrom quote text (p.addBreak x) fuel behind
            else if isGap x then quotedFrom quote text (p.addGap x) fuel behind
            else
              let text := text ++ p.folded
              if x == quote then
                if quote == '\'' && behind.sees '\'' then
                  quotedFrom quote (text ++ ['\'']) .none fuel (behind.skip 1)
                else .ok (text, behind)
              else if x == '\\' && quote == '"' then
                if behind.atBreak then quotedFrom quote text .escapedBreak fuel (behind.skip 1)
                else
                  match readEscape behind with
                  | .ok (y, behind) => quotedFrom quote (text ++ [y]) .none fuel behind
                  | .error e => .error e
              else quotedFrom quote (text ++ [x]) .none fuel behind

inductive Chomp where
  | strip
  | clip
  | keep
  deriving DecidableEq, Repr

structure BlockHeader where
  chomp : Chomp
  increment? : Option Nat
  deriving Repr

def chomp? : Option Char → Option Chomp
  | some '-' => some .strip
  | some '+' => some .keep
  | _ => none

def increment? : Option Char → Option Nat
  | some c => if c.isDigit then some (c.toNat - '0'.toNat) else none
  | none => none

def readHeader (c : Cursor) : Except Error (BlockHeader × Cursor) := do
  let (header, c) : BlockHeader × Cursor :=
    match chomp? c.peek, increment? c.peek with
    | some chomp, _ =>
        match increment? (c.peekAt 1) with
        | some n => (⟨chomp, some n⟩, c.skip 2)
        | none => (⟨chomp, none⟩, c.skip 1)
    | none, some n =>
        match chomp? (c.peekAt 1) with
        | some chomp => (⟨chomp, some n⟩, c.skip 2)
        | none => (⟨.clip, some n⟩, c.skip 1)
    | none, none => (⟨.clip, none⟩, c)
  if header.increment? = some 0 then fail "found an indentation indicator equal to 0"
  let c := c.skipWhile isGap
  let c := if c.sees '#' then c.skipWhile (!isBreak ·) else c
  if c.peek.any (!isBreak ·) then fail "did not find expected comment or line break"
  return (header, c.skip 1)

/-- Passes over empty lines.  Answers their line breaks and how far the lines were indented. -/
def blockBreaks (indent? : Option Nat) :
    Nat → Nat → Cursor → Except Error (List Char × Nat × Cursor)
  | 0, deepest, c => .ok ([], deepest, c)
  | fuel + 1, deepest, c => do
      let room := match indent? with
        | some indent => indent - c.column
        | none => c.rest.length
      let (_, c) := c.takeWhile (· == ' ') room
      let deepest := max deepest c.column
      let outside := match indent? with
        | some indent => c.column < indent
        | none => true
      if outside && c.sees '\t' then
        fail "found a tab character where an indentation space is expected"
      match c.next with
      | some (x, behind) =>
          if c.atBreak then
            let (more, deepest, c) ← blockBreaks indent? fuel deepest behind
            return (x :: more, deepest, c)
          else return ([], deepest, c)
      | none => return ([], deepest, c)

structure BlockText where
  text : List Char
  /-- The break that ended the last line. -/
  lastBreak : List Char
  /-- The empty lines behind it. -/
  emptyLines : List Char
  /-- Whether the last line started with white space. -/
  lastIndented : Bool

def blockLines (folds : Bool) (indent : Nat) (b : BlockText) :
    Nat → Cursor → Except Error (BlockText × Cursor)
  | 0, c => .ok (b, c)
  | fuel + 1, c =>
      if c.column ≠ indent || c.peek.isNone then .ok (b, c)
      else do
        let indented := c.atGap
        let joined :=
          if folds && b.lastBreak == ['\n'] && !b.lastIndented && !indented then
            if b.emptyLines.isEmpty then [' '] else []
          else b.lastBreak
        let (line, c) := c.span (!isBreak ·)
        let (lastBreak, c) := match c.next with
          | some (x, behind) => ([x], behind)
          | none => ([], c)
        let (emptyLines, _, c) ← blockBreaks (some indent) fuel 0 c
        let text := b.text ++ joined ++ b.emptyLines ++ line
        blockLines folds indent ⟨text, lastBreak, emptyLines, indented⟩ fuel c

/-- Reads a block scalar behind its indicator, within a collection of the given indentation. -/
def readBlock (folds : Bool) (outer : Int) (c : Cursor) :
    Except Error (List Char × Cursor) := do
  let fuel := c.rest.length + 1
  let (header, c) ← readHeader c
  let given? := header.increment?.map fun n => (max outer 0).toNat + n
  let (emptyLines, deepest, c) ← blockBreaks given? fuel 0 c
  let indent := given?.getD (max deepest (max (outer + 1) 1).toNat)
  let (b, c) ← blockLines folds indent ⟨[], [], emptyLines, false⟩ fuel c
  let text := b.text ++ (if header.chomp = .strip then [] else b.lastBreak) ++
    (if header.chomp = .keep then b.emptyLines else [])
  return (text, c)

end TreeLint.Yaml
