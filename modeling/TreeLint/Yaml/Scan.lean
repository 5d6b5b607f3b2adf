import TreeLint.Yaml.Scalar

/-! From characters to tokens.  Indentation becomes brackets, and a scalar turns out to be a key
when a colon follows it. -/

namespace TreeLint.Yaml

inductive Token where
  | version (major minor : Nat)
  | tagHandle (handle expansion : String)
  | documentStart
  | documentEnd
  | sequenceStart
  | mappingStart
  /-- The end of an indented collection. -/
  | blockEnd
  | flowSequenceStart
  | flowSequenceEnd
  | flowMappingStart
  | flowMappingEnd
  | blockEntry
  | flowEntry
  | key
  | value
  | alias (name : String)
  | anchor (name : String)
  | tag (handle suffix : String)
  | scalar (text : String) (style : Style)
  deriving DecidableEq, Repr

/-- A token that can still turn out to be the start of a key. -/
structure KeyCandidate where
  /-- Whether it has to be one, since it stands where keys of a mapping stand. -/
  required : Bool
  /-- The number of tokens in front of it. -/
  position : Nat
  cursor : Cursor

structure Scanner where
  cursor : Cursor
  tokens : List Token
  /-- The columns of the open indented collections, the innermost first. -/
  indents : List Nat
  /-- The candidates of the open flow collections, the innermost first, and that of the text
  around them. -/
  candidates : List (Option KeyCandidate)
  keyAllowed : Bool

namespace Scanner

def start (text : List Char) : Scanner := ⟨.start text, [], [], [none], true⟩

def inFlow (s : Scanner) : Bool := 1 < s.candidates.length

/-- The column of the innermost indented collection, −1 outside of all. -/
def indent (s : Scanner) : Int :=
  match s.indents with
  | column :: _ => column
  | [] => -1

def emit (s : Scanner) (t : Token) : Scanner := { s with tokens := s.tokens ++ [t] }

def unroll (column : Int) (s : Scanner) : Scanner :=
  if s.inFlow then s
  else
    let closed := s.indents.takeWhile fun (i : Nat) => decide (column < (i : Int))
    { s with
      tokens := s.tokens ++ closed.map fun _ => Token.blockEnd
      indents := s.indents.drop closed.length }

def roll (s : Scanner) (column position : Nat) (t : Token) : Scanner :=
  if s.inFlow || (column : Int) ≤ s.indent then s
  else { s with tokens := s.tokens.insertIdx position t, indents := column :: s.indents }

def rollHere (s : Scanner) (t : Token) : Scanner := s.roll s.cursor.column s.tokens.length t

def candidate? (s : Scanner) : Option KeyCandidate := s.candidates.head?.join

def setCandidate (s : Scanner) (k : Option KeyCandidate) : Scanner :=
  { s with candidates := k :: s.candidates.tail }

def dropCandidate (s : Scanner) : Except Error Scanner :=
  if s.candidate?.any (·.required) then fail "could not find expected ':'"
  else .ok (s.setCandidate none)

def markCandidate (s : Scanner) : Except Error Scanner := do
  if !s.keyAllowed then return s
  let s ← s.dropCandidate
  return s.setCandidate (some {
    required := !s.inFlow && s.indent == s.cursor.column
    position := s.tokens.length
    cursor := s.cursor })

/-- A key ends on the line where it starts, and is not too long. -/
def isStale (c : Cursor) (k : KeyCandidate) : Bool :=
  k.cursor.line < c.line || k.cursor.index + 1024 < c.index

def dropStale (s : Scanner) : Except Error Scanner :=
  let stale (k? : Option KeyCandidate) : Bool := k?.any (isStale s.cursor)
  if s.candidates.any fun k? => stale k? && k?.any (·.required) then
    fail "could not find expected ':'"
  else .ok { s with candidates := s.candidates.map fun k? => if stale k? then none else k? }

def skipGaps : Nat → Scanner → Scanner
  | 0, s => s
  | fuel + 1, s =>
      let tabs := s.inFlow || !s.keyAllowed
      let c := s.cursor.skipWhile fun x => x == ' ' || (tabs && x == '\t')
      let c := if c.sees '#' then c.skipWhile (!isBreak ·) else c
      if c.atBreak then
        skipGaps fuel { s with cursor := c.skip 1, keyAllowed := s.keyAllowed || !s.inFlow }
      else { s with cursor := c }

def isNameChar (c : Char) : Bool := c.isAlphanum || c == '_' || c == '-'

def endsName (c : Cursor) : Bool :=
  c.atWordEnd || c.peek.any ['?', ':', ',', ']', '\x7d', '%', '@', '\x60'].contains

def scanName (c : Cursor) : Except Error (String × Cursor) :=
  let (name, c) := (c.skip 1).span isNameChar
  if name.isEmpty || !endsName c then
    fail "did not find expected alphabetic or numeric character"
  else .ok (String.ofList name, c)

def isUriChar (c : Char) : Bool :=
  isNameChar c || [';', '/', '?', ':', '@', '&', '=', '+', '$', '.', '%', '!', '~', '*', '\'',
    '(', ')'].contains c

def isLongUriChar (c : Char) : Bool := isUriChar c || [',', '[', ']'].contains c

/-- A tag behind its first exclamation mark: its handle and what follows. -/
def scanTag (inFlow : Bool) (c : Cursor) : Except Error (Token × Cursor) := do
  let behind := c.skip 1
  let (t, c) ← (
    if behind.sees '<' then
      let (uri, c) := (behind.skip 1).span isLongUriChar
      if uri.isEmpty || !c.sees '>' then fail "did not find the expected '>'"
      else .ok (Token.tag "" (String.ofList uri), c.skip 1)
    else
      let (name, c) := behind.span isNameChar
      if c.sees '!' then
        let (suffix, c) := (c.skip 1).span isUriChar
        if suffix.isEmpty then fail "did not find expected tag URI"
        else .ok (Token.tag ("!" ++ String.ofList name ++ "!") (String.ofList suffix), c)
      else
        let (suffix, c) := behind.span isUriChar
        .ok (Token.tag "!" (String.ofList suffix), c) : Except Error (Token × Cursor))
  if c.atWordEnd || (inFlow && c.sees ',') then return (t, c)
  else fail "did not find expected whitespace or line break"

def scanNumber (c : Cursor) : Except Error (Nat × Cursor) :=
  let (digits, c) := c.span Char.isDigit
  if digits.isEmpty || 9 < digits.length then fail "did not find expected version number"
  else .ok ((String.ofList digits).toNat?.getD 0, c)

def scanHandle (c : Cursor) : Except Error (String × Cursor) :=
  if !c.sees '!' then fail "did not find expected '!'"
  else
    let (name, c) := (c.skip 1).span isNameChar
    if c.sees '!' then .ok ("!" ++ String.ofList name ++ "!", c.skip 1)
    else if name.isEmpty then .ok ("!", c)
    else fail "did not find expected '!'"

def scanDirective (c : Cursor) : Except Error (Token × Cursor) := do
  let (name, c) := (c.skip 1).span isNameChar
  let c := c.skipWhile isGap
  let (t, c) ← (match String.ofList name with
    | "YAML" => do
        let (major, c) ← scanNumber c
        if !c.sees '.' then fail "did not find expected digit or '.' character"
        let (minor, c) ← scanNumber (c.skip 1)
        return (Token.version major minor, c)
    | "TAG" => do
        let (handle, c) ← scanHandle c
        if !c.atGap then fail "did not find expected whitespace"
        let (expansion, c) := (c.skipWhile isGap).span isLongUriChar
        if !c.atWordEnd then fail "did not find expected whitespace or line break"
        return (Token.tagHandle handle (String.ofList expansion), c)
    | _ => fail "found unknown directive name" : Except Error (Token × Cursor))
  let c := c.skipWhile isGap
  let c := if c.sees '#' then c.skipWhile (!isBreak ·) else c
  if c.peek.any (!isBreak ·) then fail "did not find expected comment or line break"
  return (t, c.skip 1)

def topToken (s : Scanner) (t : Token) (c : Cursor) : Except Error Scanner := do
  let s ← (s.unroll (-1)).dropCandidate
  return { s.emit t with cursor := c, keyAllowed := false }

def openFlow (s : Scanner) (t : Token) : Except Error Scanner := do
  let s ← s.markCandidate
  return { s.emit t with
    cursor := s.cursor.skip 1, candidates := none :: s.candidates, keyAllowed := true }

def closeFlow (s : Scanner) (t : Token) : Except Error Scanner := do
  let s ← s.dropCandidate
  let candidates := if s.inFlow then s.candidates.tail else s.candidates
  return { s.emit t with cursor := s.cursor.skip 1, candidates, keyAllowed := false }

def flowEntry (s : Scanner) : Except Error Scanner := do
  let s ← s.dropCandidate
  return { s.emit .flowEntry with cursor := s.cursor.skip 1, keyAllowed := true }

def blockEntry (s : Scanner) : Except Error Scanner := do
  if !s.inFlow && !s.keyAllowed then
    fail "block sequence entries are not allowed in this context"
  let s ← (s.rollHere .sequenceStart).dropCandidate
  return { s.emit .blockEntry with cursor := s.cursor.skip 1, keyAllowed := true }

def explicitKey (s : Scanner) : Except Error Scanner := do
  if !s.inFlow && !s.keyAllowed then fail "mapping keys are not allowed in this context"
  let s ← (s.rollHere .mappingStart).dropCandidate
  return { s.emit .key with cursor := s.cursor.skip 1, keyAllowed := !s.inFlow }

def value (s : Scanner) : Except Error Scanner := do
  match s.candidate? with
  | some k =>
      let s := { s with tokens := s.tokens.insertIdx k.position Token.key }
      let s := (s.roll k.cursor.column k.position .mappingStart).setCandidate none
      return { s.emit .value with cursor := s.cursor.skip 1, keyAllowed := false }
  | none =>
      if !s.inFlow && !s.keyAllowed then fail "mapping values are not allowed in this context"
      let s := s.rollHere .mappingStart
      return { s.emit .value with cursor := s.cursor.skip 1, keyAllowed := !s.inFlow }

def keyLike (s : Scanner) (read : Except Error (Token × Cursor)) : Except Error Scanner := do
  let s ← s.markCandidate
  let (t, c) ← read
  return { s.emit t with cursor := c, keyAllowed := false }

def quotedScalar (s : Scanner) (quote : Char) : Except Error Scanner :=
  s.keyLike ((quotedFrom quote [] .none s.cursor.rest.length (s.cursor.skip 1)).map
    fun (text, c) => (.scalar (String.ofList text) .quoted, c))

def plainScalar (s : Scanner) : Except Error Scanner := do
  let s ← s.markCandidate
  let (text, lineEnded, c) ←
    plainFrom s.inFlow (s.indent + 1) [] .none (s.cursor.rest.length + 1) s.cursor
  return { s.emit (.scalar (String.ofList text) .plain) with
    cursor := c, keyAllowed := lineEnded }

def blockScalar (s : Scanner) (folds : Bool) : Except Error Scanner := do
  let s ← s.dropCandidate
  let (text, c) ← readBlock folds s.indent (s.cursor.skip 1)
  return { s.emit (.scalar (String.ofList text) .block) with cursor := c, keyAllowed := true }

def indicators : List Char :=
  ['-', '?', ':', ',', '[', ']', '\x7b', '\x7d', '#', '&', '*', '!', '|', '>', '\'', '"', '%',
    '@', '\x60']

def startsPlain (inFlow : Bool) (x : Char) (after : Option Char) : Bool :=
  (!indicators.contains x && !isGap x) || (x == '-' && !after.any isGap) ||
    (!inFlow && (x == '?' || x == ':') && !endsWord after)

def fetch (s : Scanner) (x : Char) : Except Error Scanner :=
  let c := s.cursor
  let after := c.peekAt 1
  let nameToken (make : String → Token) := (scanName c).map fun (name, c) => (make name, c)
  if c.column == 0 && x == '%' then do
    let s ← (s.unroll (-1)).dropCandidate
    let (t, c) ← scanDirective c
    return { s.emit t with cursor := c, keyAllowed := false }
  else if c.atMark '-' then s.topToken .documentStart (c.skip 3)
  else if c.atMark '.' then s.topToken .documentEnd (c.skip 3)
  else
    match x with
    | '[' => s.openFlow .flowSequenceStart
    | '\x7b' => s.openFlow .flowMappingStart
    | ']' => s.closeFlow .flowSequenceEnd
    | '\x7d' => s.closeFlow .flowMappingEnd
    | ',' => s.flowEntry
    | '*' => s.keyLike (nameToken .alias)
    | '&' => s.keyLike (nameToken .anchor)
    | '!' => s.keyLike (scanTag s.inFlow c)
    | '\'' | '"' => s.quotedScalar x
    | _ =>
        if x == '-' && endsWord after then s.blockEntry
        else if x == '?' && (s.inFlow || endsWord after) then s.explicitKey
        else if x == ':' && (s.inFlow || endsWord after) then s.value
        else if x == '|' && !s.inFlow then s.blockScalar false
        else if x == '>' && !s.inFlow then s.blockScalar true
        else if startsPlain s.inFlow x after then s.plainScalar
        else fail "found character that cannot start any token"

def run : Nat → Scanner → Except Error (List Token)
  | 0, s => .ok s.tokens
  | fuel + 1, s => do
      let s ← (skipGaps (s.cursor.rest.length + 1) s).dropStale
      match s.cursor.peek with
      | none =>
          let s ← (s.unroll (-1)).dropCandidate
          return s.tokens
      | some x => run fuel (← (s.unroll s.cursor.column).fetch x)

end Scanner

/-- The tokens of a text.  Each but the brackets of indentation uses up a character. -/
def scan (text : String) : Except Error (List Token) :=
  let chars := match text.toList with
    | c :: rest => if c.toNat = 0xfeff then rest else c :: rest
    | [] => []
  if chars.all isAllowed then Scanner.run (chars.length + 1) (.start chars)
  else fail "control characters are not allowed"

end TreeLint.Yaml
