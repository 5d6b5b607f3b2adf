/-! Patterns for paths.  A star stands for any text, slashes included; two stars between slashes
stand for any directories. -/

namespace TreeLint

inductive GlobPart where
  | literal (c : Char)
  /-- One byte. -/
  | any
  | many
  /-- Any directories at the start. -/
  | leading
  /-- Anything below. -/
  | trailing
  /-- Any directories in between. -/
  | between
  | oneOf (negated : Bool) (ranges : List (Char × Char))
  | alternatives (branches : List (List GlobPart))

structure Glob where
  pattern : String
  parts : List GlobPart

inductive GlobProblem where
  | unclosedClass
  | invalidRange (first last : Char)
  | unopenedGroup
  | unclosedGroup
  | danglingEscape
  deriving DecidableEq, Repr

structure GlobError where
  pattern : String
  problem : GlobProblem
  deriving DecidableEq, Repr

namespace GlobError

def describe : GlobProblem → String
  | .unclosedClass => "unclosed character class; missing ']'"
  | .invalidRange first last =>
      "invalid range; '" ++ first.toString ++ "' > '" ++ last.toString ++ "'"
  | .unopenedGroup =>
      "unopened alternate group; missing '\x7b' (maybe escape '\x7d' with '[\x7d]'?)"
  | .unclosedGroup =>
      "unclosed alternate group; missing '\x7d' (maybe escape '\x7b' with '[\x7b]'?)"
  | .danglingEscape => "dangling '\\'"

def message (e : GlobError) : String :=
  "error parsing glob '" ++ e.pattern ++ "': " ++ describe e.problem

end GlobError

namespace Glob

/-- The parts of an open group: its finished branches and the branch being read, reversed. -/
structure Group where
  finished : List (List GlobPart)
  current : List GlobPart

/-- The innermost group comes first; the last one is the pattern itself. -/
structure Reader where
  inner : Group
  outer : List Group
  /-- The character in front of the next one. -/
  before? : Option Char

namespace Reader

def start : Reader := ⟨⟨[], []⟩, [], none⟩

def push (r : Reader) (part : GlobPart) : Reader :=
  { r with inner := { r.inner with current := part :: r.inner.current } }

def inGroup (r : Reader) : Bool := !r.outer.isEmpty

def pass (r : Reader) (c : Char) : Reader := { r with before? := some c }

def openGroup (r : Reader) : Reader := { r with inner := ⟨[], []⟩, outer := r.inner :: r.outer }

def nextBranch (r : Reader) : Reader :=
  { r with inner := ⟨r.inner.finished ++ [r.inner.current.reverse], []⟩ }

def closeGroup (r : Reader) : Except GlobProblem Reader :=
  match r.outer with
  | [] => .error .unopenedGroup
  | around :: outer =>
      let branches := r.inner.finished ++ [r.inner.current.reverse]
      .ok ({ r with inner := around, outer }.push (.alternatives branches))

/-- Two stars behind a slash take its place. -/
def pushDirectories (r : Reader) (part : GlobPart) : Reader :=
  match r.inner.current with
  | .leading :: _ | .trailing :: _ => r
  | _ :: rest => { r with inner := { r.inner with current := part :: rest } }
  | [] => r.push part

end Reader

/-- Reads the members of a character class.  Answers its ranges and how many characters it
took. -/
def readClass (ranges : List (Char × Char)) (first inRange : Bool) :
    List Char → Except GlobProblem (List (Char × Char) × Nat)
  | [] => .error .unclosedClass
  | c :: rest =>
      let single : Except GlobProblem (List (Char × Char) × Nat) :=
        (readClass ((c, c) :: ranges) false false rest).map fun (found, n) => (found, n + 1)
      let upTo : Except GlobProblem (List (Char × Char) × Nat) :=
        match ranges with
        | (low, _) :: others =>
            if c < low then .error (.invalidRange low c)
            else
              (readClass ((low, c) :: others) false false rest).map fun (found, n) => (found, n + 1)
        | [] => single
      if c = ']' && !first then
        .ok ((if inRange then ('-', '-') :: ranges else ranges).reverse, 1)
      else if c = ']' then single
      else if inRange then upTo
      else if c = '-' && !first then
        (readClass ranges false true rest).map fun (found, n) => (found, n + 1)
      else single

def readStars (r : Reader) (rest : List Char) : Reader × Nat :=
  let twoStars := (r.push .many).push .many
  if r.inner.current.isEmpty then
    match rest with
    | [] => (r.push .leading, 0)
    | '/' :: _ => (r.push .leading, 1)
    | _ => (twoStars, 0)
  else if r.before? = some '/' ||
      (r.inGroup && (r.before? = some ',' || r.before? = some '\x7b')) then
    match rest with
    | [] => (r.pushDirectories .trailing, 0)
    | '/' :: _ => (r.pushDirectories .between, 1)
    | c :: _ =>
        if r.inGroup && (c = ',' || c = '\x7d') then (r.pushDirectories .trailing, 0)
        else (twoStars, 0)
  else (twoStars, 0)

def read (r : Reader) : Nat → List Char → Except GlobProblem Reader
  | 0, _ => .ok r
  | _ + 1, [] => .ok r
  | fuel + 1, c :: rest =>
      let plain (r : Reader) := read (r.pass c) fuel rest
      match c, rest with
      | '?', _ => plain (r.push .any)
      | '*', '*' :: rest =>
          let (r, n) := readStars r rest
          let last := ((rest.take n).getLast?).getD '*'
          read (r.pass last) fuel (rest.drop n)
      | '*', _ => plain (r.push .many)
      | '[', _ =>
          let negated := rest.head? = some '!' || rest.head? = some '^'
          let members := if negated then rest.drop 1 else rest
          match readClass [] true false members with
          | .ok (ranges, n) =>
              read ((r.push (.oneOf negated ranges)).pass ']') fuel (members.drop n)
          | .error e => .error e
      | '\x7b', _ => plain r.openGroup
      | '\x7d', _ =>
          match r.closeGroup with
          | .ok r => plain r
          | .error e => .error e
      | ',', _ => plain (if r.inGroup then r.nextBranch else r.push (.literal ','))
      | '\\', [] => .error .danglingEscape
      | '\\', d :: rest => read ((r.push (.literal d)).pass d) fuel rest
      | _, _ => plain (r.push (.literal c))

def ofPattern (pattern : String) : Except GlobError Glob :=
  let chars := pattern.toList
  match read .start chars.length chars with
  | .error problem => .error ⟨pattern, problem⟩
  | .ok r =>
      if r.inGroup then .error ⟨pattern, .unclosedGroup⟩
      else .ok ⟨pattern, r.inner.current.reverse⟩

abbrev Bytes := List UInt8

def bytesOf (c : Char) : Bytes := c.toString.toUTF8.toList

def suffixes : Bytes → List Bytes
  | [] => [[]]
  | b :: rest => (b :: rest) :: suffixes rest

def slash : UInt8 := 47

def behindSlashes (text : Bytes) : List Bytes :=
  (suffixes text).filterMap fun s =>
    match s with
    | b :: rest => if b = slash then some rest else none
    | [] => none

def dropBytes : Bytes → Bytes → List Bytes
  | [], text => [text]
  | _ :: _, [] => []
  | b :: bs, c :: text => if b = c then dropBytes bs text else []

/-- The bytes of a class: of a range of characters with several bytes only the last byte of the
one end and the first byte of the other make a range. -/
def inRange (b : UInt8) (range : Char × Char) : Bool :=
  let low := bytesOf range.1
  let high := bytesOf range.2
  if range.1 = range.2 then low.contains b
  else
    low.dropLast.contains b || high.tail.contains b ||
      ((low.getLast?.getD 0) ≤ b && b ≤ (high.head?.getD 0))

def distinct (found : List Bytes) : List Bytes :=
  found.foldl (fun kept s => if kept.any (·.length == s.length) then kept else s :: kept) []

mutual
def isVoid : GlobPart → Bool
  | .alternatives branches => areVoid branches
  | _ => false

def isVoidBranch : List GlobPart → Bool
  | [] => true
  | part :: parts => isVoid part && isVoidBranch parts

def areVoid : List (List GlobPart) → Bool
  | [] => true
  | branch :: rest => isVoidBranch branch && areVoid rest
end

mutual
def behind (text : Bytes) : GlobPart → List Bytes
  | .literal c => dropBytes (bytesOf c) text
  | .any =>
      match text with
      | _ :: rest => [rest]
      | [] => []
  | .many => suffixes text
  | .leading => text :: behindSlashes text
  | .trailing =>
      match text with
      | b :: rest => if b = slash then suffixes rest else []
      | [] => []
  | .between =>
      match text with
      | b :: rest => if b = slash then rest :: behindSlashes rest else []
      | [] => []
  | .oneOf negated ranges =>
      match text with
      | b :: rest => if ranges.any (inRange b) != negated then [rest] else []
      | [] => []
  | .alternatives branches =>
      if areVoid branches then [text] else behindAny text branches

/-- Branches that stand for nothing do not count. -/
def behindAny (text : Bytes) : List (List GlobPart) → List Bytes
  | [] => []
  | branch :: rest =>
      if isVoidBranch branch then behindAny text rest
      else distinct (behindAll [text] branch ++ behindAny text rest)

def behindAll (texts : List Bytes) : List GlobPart → List Bytes
  | [] => texts
  | part :: parts => behindAll (distinct (texts.flatMap fun text => behind text part)) parts
end

/-- Whether the pattern fits the whole path.  Two stars alone fit every path. -/
def fits (g : Glob) (path : String) : Bool :=
  match g.parts with
  | [.leading] => true
  | parts => (behindAll [path.toUTF8.toList] parts).any (·.isEmpty)

end Glob

end TreeLint
