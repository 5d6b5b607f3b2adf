import TreeLint.Json.Basic

/-! Reading JSON texts: characters are gathered to tokens, and tokens are put together to a
value. -/

namespace TreeLint.Json

inductive Token where
  | openArray
  | closeArray
  | openObject
  | closeObject
  | comma
  | colon
  | string (value : String)
  /-- A number or a constant. -/
  | word (value : Json)

def isWordChar (c : Char) : Bool := c.isAlphanum || c == '-' || c == '+' || c == '.'

def digits? (text : List Char) : Option (List Char × List Char) :=
  if (text.takeWhile Char.isDigit).isEmpty then none
  else some (text.takeWhile Char.isDigit, text.dropWhile Char.isDigit)

/-- No other digit follows a zero at the beginning. -/
def whole? (text : List Char) : Option (List Char × List Char) :=
  match digits? text with
  | some ('0' :: _ :: _, _) => none
  | read? => read?

def fraction? : List Char → Option (List Char × List Char)
  | '.' :: rest => digits? rest
  | rest => some ([], rest)

def exponent? : List Char → Option Int
  | [] => some 0
  | mark :: rest =>
      let (negative, rest) := match rest with
        | '-' :: rest => (true, rest)
        | '+' :: rest => (false, rest)
        | rest => (false, rest)
      match digits? rest with
      | some (digits, []) =>
          let value : Int := Nat.ofDigitChars 10 digits 0
          if mark = 'e' ∨ mark = 'E' then some (if negative then -value else value) else none
      | _ => none

/-- Integers have neither a fraction nor an exponent, and zero has no sign. -/
def unsigned? (negative : Bool) (text : List Char) : Option Json := do
  let (whole, rest) ← whole? text
  let (fraction, exponent) ← fraction? rest
  let power ← exponent? exponent
  let value : Int := Nat.ofDigitChars 10 (whole ++ fraction) 0
  let signed := if negative then -value else value
  if rest.isEmpty ∧ ¬(negative ∧ value = 0) then return .int signed
  return .decimal (.ofScientific signed (power - fraction.length))

def number? : List Char → Option Json
  | '-' :: rest => unsigned? true rest
  | text => unsigned? false text

def word? : List Char → Option Json
  | ['n', 'u', 'l', 'l'] => some .null
  | ['t', 'r', 'u', 'e'] => some (.bool true)
  | ['f', 'a', 'l', 's', 'e'] => some (.bool false)
  | text => number? text

/-- What the reader is in the middle of; what has been read is reversed. -/
inductive Mode where
  | between
  | word (read : List Char)
  | string (read : List Char)
  /-- After a backslash, perhaps with the first half of a pair before it. -/
  | escape (read : List Char) (high? : Option Nat)
  /-- After the first half of a pair. -/
  | half (read : List Char) (high : Nat)
  | unicode (read : List Char) (high? : Option Nat) (digits : List Nat)

def unescape? : Char → Option Char
  | '"' => some '"'
  | '\\' => some '\\'
  | '/' => some '/'
  | 'b' => some (Char.ofNat 8)
  | 'f' => some (Char.ofNat 12)
  | 'n' => some '\n'
  | 'r' => some '\r'
  | 't' => some '\t'
  | _ => none

def unicodeMode? (read : List Char) (high? : Option Nat) (code : Nat) : Option Mode :=
  match high? with
  | none =>
      if 0xd800 ≤ code ∧ code < 0xdc00 then some (.half read code)
      else if 0xdc00 ≤ code ∧ code < 0xe000 then none
      else some (.string (Char.ofNat code :: read))
  | some high =>
      if 0xdc00 ≤ code ∧ code < 0xe000 then
        some (.string (Char.ofNat (0x10000 + (high - 0xd800) * 0x400 + (code - 0xdc00)) :: read))
      else none

def start? (c : Char) : Option (List Token × Mode) :=
  match c with
  | ' ' | '\n' | '\r' | '\t' => some ([], .between)
  | '[' => some ([.openArray], .between)
  | ']' => some ([.closeArray], .between)
  | '\x7b' => some ([.openObject], .between)
  | '\x7d' => some ([.closeObject], .between)
  | ',' => some ([.comma], .between)
  | ':' => some ([.colon], .between)
  | '"' => some ([], .string [])
  | c => if isWordChar c then some ([], .word [c]) else none

namespace Mode

/-- Takes in a character, and answers the tokens that are complete by then. -/
def next? : Mode → Char → Option (List Token × Mode)
  | between, c => start? c
  | word read, c =>
      if isWordChar c then some ([], word (c :: read))
      else
        match word? read.reverse with
        | some value => (start? c).map fun (complete, mode) => (.word value :: complete, mode)
        | none => none
  | string read, c =>
      if c = '"' then some ([.string (String.ofList read.reverse)], between)
      else if c = '\\' then some ([], escape read none)
      else if c.toNat < 32 then none
      else some ([], string (c :: read))
  | escape read none, c =>
      if c = 'u' then some ([], unicode read none [])
      else (unescape? c).map fun c => ([], string (c :: read))
  | escape read (some high), c => if c = 'u' then some ([], unicode read (some high) []) else none
  | half read high, c => if c = '\\' then some ([], escape read (some high)) else none
  | unicode read high? digits, c => do
      let digit ← Text.hexValue? c
      match digits with
      | [third, second, first] =>
          let mode ← unicodeMode? read high? (first * 4096 + second * 256 + third * 16 + digit)
          return ([], mode)
      | _ => return ([], unicode read high? (digit :: digits))

def finish? : Mode → Option (List Token)
  | between => some []
  | word read => (word? read.reverse).map fun value => [.word value]
  | _ => none

end Mode

def tokens? (mode : Mode) : List Char → Option (List Token)
  | [] => mode.finish?
  | c :: rest =>
      match mode.next? c with
      | some (complete, mode) => (tokens? mode rest).map (complete ++ ·)
      | none => none

/-- An array or object that is not complete yet, with what it has so far, reversed. -/
inductive Frame where
  | array (items : List Json)
  | object (members : List (String × Json)) (key : String)

inductive Stage where
  | wants (outer : List Frame)
  | firstItem (outer : List Frame)
  | firstKey (outer : List Frame)
  | key (members : List (String × Json)) (outer : List Frame)
  | colon (members : List (String × Json)) (key : String) (outer : List Frame)
  /-- The value is complete. -/
  | ended (value : Json) (outer : List Frame)

namespace Stage

def begin? (outer : List Frame) : Token → Option Stage
  | .openArray => some (firstItem outer)
  | .openObject => some (firstKey outer)
  | .string value => some (ended (.string value) outer)
  | .word value => some (ended value outer)
  | _ => none

def next? : Stage → Token → Option Stage
  | wants outer, token => begin? outer token
  | firstItem outer, .closeArray => some (ended (.array []) outer)
  | firstItem outer, token => begin? (.array [] :: outer) token
  | firstKey outer, .closeObject => some (ended (.object []) outer)
  | firstKey outer, .string name => some (colon [] name outer)
  | key members outer, .string name => some (colon members name outer)
  | colon members name outer, .colon => some (wants (.object members name :: outer))
  | ended item (.array items :: outer), .comma => some (wants (.array (item :: items) :: outer))
  | ended item (.array items :: outer), .closeArray =>
      some (ended (.array (item :: items).reverse) outer)
  | ended item (.object members name :: outer), .comma =>
      some (key ((name, item) :: members) outer)
  | ended item (.object members name :: outer), .closeObject =>
      some (ended (.object ((name, item) :: members).reverse) outer)
  | _, _ => none

end Stage

def parse? (text : String) : Option Json := do
  let tokens ← tokens? .between text.toList
  match ← tokens.foldlM Stage.next? (.wants []) with
  | .ended value [] => return value
  | _ => none

end TreeLint.Json
