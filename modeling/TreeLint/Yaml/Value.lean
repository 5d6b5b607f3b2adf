import TreeLint.Json.Basic
import TreeLint.Yaml.Parse

namespace TreeLint.Yaml

inductive Value where
  | null
  | bool (value : Bool)
  | int (value : Int)
  | float (value : Decimal)
  /-- An infinite number, or none at all. -/
  | nonFinite
  | string (value : String)
  | sequence (items : List Value)
  | mapping (entries : List (Value × Value))
  | tagged (tag : String) (value : Value)

def isNull (text : String) : Bool := ["null", "Null", "NULL", "~"].contains text

def bool? (text : String) : Option Bool :=
  if ["true", "True", "TRUE"].contains text then some true
  else if ["false", "False", "FALSE"].contains text then some false
  else none

def digits? (base : Nat) (text : List Char) : Option Nat :=
  if text.isEmpty then none
  else text.foldlM (fun n c => do
    let d ← Text.hexValue? c
    if d < base then some (base * n + d) else none) 0

def isSign (c : Char) : Bool := c == '+' || c == '-'

def unsigned : List Char → List Char
  | c :: rest => if isSign c then rest else c :: rest
  | [] => []

/-- Zeros in front of digits keep a text from being a number. -/
def hasLeadingZero (text : List Char) : Bool :=
  match unsigned text with
  | '0' :: c :: rest => (c :: rest).all Char.isDigit
  | _ => false

def marked? : List Char → Option Nat
  | '0' :: 'x' :: rest => digits? 16 rest
  | '0' :: 'o' :: rest => digits? 8 rest
  | '0' :: 'b' :: rest => digits? 2 rest
  | _ => none

def magnitude? (text : List Char) : Option Nat :=
  marked? (unsigned text) <|>
    (if hasLeadingZero text then none else digits? 10 (unsigned text))

def int? (text : List Char) : Option Int :=
  (magnitude? text).map fun n => if text.head? = some '-' then -(n : Int) else n

def takeDigits (text : List Char) : List Char × List Char := text.span Char.isDigit

def exponent? : List Char → Option Int
  | [] => some 0
  | mark :: rest =>
      if mark == 'e' || mark == 'E' then
        (digits? 10 (unsigned rest)).map fun n =>
          if rest.head? = some '-' then -(n : Int) else n
      else none

/-- From here on a number is out of the range of floating-point numbers. -/
def floatBound : Nat := Nat.pow 2 1024 - Nat.pow 2 970

def scientific? (digits : Nat) (exponent : Int) : Option Decimal :=
  let length := (toString digits).length
  if digits = 0 || length + exponent < -400 then some ⟨0, 0⟩
  else if 400 < length + exponent then none
  else if floatBound ≤ digits * Nat.pow 10 exponent.toNat / Nat.pow 10 (-exponent).toNat then none
  else some (Decimal.ofScientific digits exponent)

def unsignedDecimal? (text : List Char) : Option Decimal :=
  let (whole, rest) := takeDigits text
  let (fraction, rest) := match rest with
    | '.' :: more => takeDigits more
    | other => ([], other)
  if whole.isEmpty && fraction.isEmpty then none
  else do
    let exponent ← exponent? rest
    let digits ← digits? 10 (whole ++ fraction)
    scientific? digits (exponent - fraction.length)

def decimal? (text : List Char) : Option Decimal :=
  (unsignedDecimal? (unsigned text)).map fun d =>
    if text.head? = some '-' then ⟨-d.digits, d.places⟩ else d

def isNonFinite (text : String) : Bool :=
  [".inf", ".Inf", ".INF", "+.inf", "+.Inf", "+.INF", "-.inf", "-.Inf", "-.INF", ".nan", ".NaN",
    ".NAN"].contains text

def float? (text : String) : Option Value :=
  if isNonFinite text then some .nonFinite else (decimal? text.toList).map .float

/-- The integer that a text spells, which has to fit into 64 bits if it fits into 128. -/
def intValue? (text : String) : Except Error (Option Value) :=
  match int? text.toList with
  | some n =>
      if -Nat.pow 2 63 ≤ n && n < Nat.pow 2 64 then .ok (some (.int n))
      else if -Nat.pow 2 127 ≤ n && n < Nat.pow 2 128 then fail "integer out of range"
      else .ok none
  | none => .ok none

def resolvePlain (text : String) : Except Error Value := do
  if text.isEmpty || isNull text then return .null
  else if let some b := bool? text then return .bool b
  else if let some n ← intValue? text then return n
  else if hasLeadingZero text.toList then return .string text
  else return (float? text).getD (.string text)

def standardTag (name : String) : String := "tag:yaml.org,2002:" ++ name

def localTag? (tag? : Option String) : Option String :=
  match tag?.map String.toList with
  | some ('!' :: c :: rest) => some (String.ofList (c :: rest))
  | _ => none

def expected (what text : String) : Except Error α :=
  fail s!"invalid value: string {Json.quote text}, expected {what}"

def resolveTagged (tag text : String) : Except Error Value := do
  if tag = standardTag "bool" then
    match bool? text with
    | some b => return .bool b
    | none => expected "a boolean" text
  else if tag = standardTag "int" then
    match ← intValue? text with
    | some n => return n
    | none => expected "an integer" text
  else if tag = standardTag "float" then
    match float? text with
    | some x => return x
    | none => expected "a float" text
  else if tag = standardTag "null" then
    if isNull text then return .null else expected "null" text
  else return .string text

def resolveScalar (tag? : Option String) (text : String) (style : Style) :
    Except Error Value :=
  match localTag? tag?, tag?, style with
  | some name, _, .plain => (resolvePlain text).map (.tagged name)
  | some name, _, _ => .ok (.tagged name (.string text))
  | none, some tag, _ => resolveTagged tag text
  | none, none, .plain => resolvePlain text
  | none, none, _ => .ok (.string text)

def tagWith (tag? : Option String) (v : Value) : Value :=
  match localTag? tag? with
  | some name => .tagged name v
  | none => v

namespace Value

mutual
def same : Value → Value → Bool
  | null, null | nonFinite, nonFinite => true
  | bool a, bool b => a == b
  | int a, int b => a == b
  | float a, float b => a.reduce == b.reduce
  | string a, string b => a == b
  | sequence a, sequence b => sameItems a b
  | mapping a, mapping b => sameEntries a b
  | tagged t a, tagged u b => t == u && same a b
  | _, _ => false

def sameItems : List Value → List Value → Bool
  | [], [] => true
  | a :: as, b :: bs => same a b && sameItems as bs
  | _, _ => false

def sameEntries : List (Value × Value) → List (Value × Value) → Bool
  | [], [] => true
  | (k, a) :: as, (l, b) :: bs => same k l && same a b && sameEntries as bs
  | _, _ => false
end

def count? : Value → Option Nat
  | int n => if 0 ≤ n && n < Nat.pow 2 64 then some n.toNat else none
  | tagged _ v => v.count?
  | _ => none

def keyText? : Value → Option String
  | string s => some s
  | int n => some (toString n)
  | bool b => some (toString b)
  | float d => some d.text
  | _ => none

mutual
/-- The value in JSON, which has fewer sorts of keys. -/
def toJson? : Value → Option Json
  | null | nonFinite => some .null
  | bool b => some (.bool b)
  | int n => some (.int n)
  | float d => some (.decimal d)
  | string s => some (.string s)
  | sequence items => (itemsToJson? items).map .array
  | mapping entries => (entriesToJson? entries).map .object
  | tagged tag v => (toJson? v).map fun j => .object [("!" ++ tag, j)]

def itemsToJson? : List Value → Option (List Json)
  | [] => some []
  | first :: rest => do
      let j ← toJson? first
      return j :: (← itemsToJson? rest)

def entriesToJson? : List (Value × Value) → Option (List (String × Json))
  | [] => some []
  | (key, value) :: rest => do
      let k ← key.keyText?
      let j ← toJson? value
      return (k, j) :: (← entriesToJson? rest)
end

end Value

mutual
def Node.value : Node → Except Error Value
  | .scalar tag? text style => resolveScalar tag? text style
  | .sequence tag? items => (itemValues items).map fun vs => tagWith tag? (.sequence vs)
  | .mapping tag? entries =>
      (entryValues [] entries).map fun vs => tagWith tag? (.mapping vs)

def itemValues : List Node → Except Error (List Value)
  | [] => .ok []
  | first :: rest => do
      let v ← first.value
      return v :: (← itemValues rest)

def entryValues (seen : List Value) : List (Node × Node) → Except Error (List (Value × Value))
  | [] => .ok []
  | (key, value) :: rest => do
      let k ← key.value
      if seen.any (Value.same k) then fail "duplicate entry in mapping"
      let v ← value.value
      return (k, v) :: (← entryValues (k :: seen) rest)
end

namespace Node

/-- Whether nothing is written for the part, so that it can be any empty collection. -/
def isBlank : Node → Bool
  | scalar _ text style => text.isEmpty && style == .plain
  | _ => false

def isAbsent : Node → Bool
  | scalar none text .plain => text.isEmpty || isNull text
  | scalar (some tag) text .plain => tag == standardTag "null" && isNull text
  | _ => false

def asString : Node → Except Error String
  | scalar _ text _ => .ok text
  | _ => fail "invalid type: expected a string"

def asBool : Node → Except Error Bool
  | scalar _ text .plain =>
      match bool? text with
      | some b => .ok b
      | none => fail "invalid type: expected a boolean"
  | _ => fail "invalid type: expected a boolean"

def asItems (n : Node) : Except Error (List Node) :=
  match n with
  | sequence _ items => .ok items
  | other => if other.isBlank then .ok [] else fail "invalid type: expected a sequence"

def asEntries (n : Node) : Except Error (List (Node × Node)) :=
  match n with
  | mapping _ entries => .ok entries
  | other => if other.isBlank then .ok [] else fail "invalid type: expected a map"

def asOption (read : Node → Except Error α) (n : Node) : Except Error (Option α) :=
  if n.isAbsent then .ok none else (read n).map some

/-- The members of a part with named fields.  No field occurs twice; other names do no harm. -/
def asFields (names : List String) (n : Node) : Except Error (List (String × Node)) := do
  let entries ← n.asEntries
  let named ← entries.mapM fun (key, value) => return (← key.asString, value)
  let fields := named.filter fun (name, _) => names.contains name
  if (fields.map (·.1)).Nodup then return fields
  else fail "duplicate field"

end Node

end TreeLint.Yaml
