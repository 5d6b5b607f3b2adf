/-! Source locations: byte offsets from 0, lines and columns from 1. -/

namespace TreeLint

/-- A place between two characters. -/
structure Position where
  line : Nat
  column : Nat
  deriving DecidableEq, Repr

namespace Position

def le (a b : Position) : Bool :=
  a.line < b.line || (a.line == b.line && a.column ≤ b.column)

end Position

/-- A place as a parser counts it, with rows and columns from 0. -/
structure Point where
  row : Nat
  column : Nat
  deriving DecidableEq, Repr

structure Span where
  startByte : Nat
  endByte : Nat
  startLine : Nat
  startColumn : Nat
  endLine : Nat
  endColumn : Nat
  deriving DecidableEq, Repr

namespace Span

def empty : Span := ⟨0, 0, 0, 0, 0, 0⟩

instance : Inhabited Span := ⟨empty⟩

def ofPoints (startByte endByte : Nat) (start stop : Point) : Span :=
  ⟨startByte, endByte, start.row + 1, start.column + 1, stop.row + 1, stop.column + 1⟩

/-- A span inside one line, for producers that keep no byte offsets. -/
def onLine (line startColumn endColumn : Nat) : Span :=
  ⟨0, 0, line, startColumn, line, endColumn⟩

def start (s : Span) : Position := ⟨s.startLine, s.startColumn⟩

def stop (s : Span) : Position := ⟨s.endLine, s.endColumn⟩

/-- The smallest span around two spans, compared by line and column. -/
def cover (a b : Span) : Span :=
  let first := if a.start.le b.start then a else b
  let last := if b.stop.le a.stop then a else b
  ⟨first.startByte, last.endByte, first.startLine, first.startColumn, last.endLine,
    last.endColumn⟩

def endPoint (s : Span) : Span :=
  ⟨s.endByte, s.endByte, s.endLine, s.endColumn, s.endLine, s.endColumn⟩

instance : ToString Span := ⟨fun s => s!"{s.startLine}:{s.startColumn}"⟩

end Span

end TreeLint
