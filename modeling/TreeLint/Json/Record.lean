import TreeLint.Json.Parse

/-! Records as JSON objects.  A field may be left out of the object when it is written, and may
have a value for when it is not there. -/

namespace TreeLint.Json

inductive ReadError where
  /-- It is not JSON. -/
  | malformed
  | mistyped
  | missing (field : String)
  | repeated (field : String)
  deriving DecidableEq, Repr

/-- How values are written, and read back. -/
structure Format (α : Type) where
  write : α → Json
  read : Json → Except ReadError α

namespace Format

def text : Format String where
  write := .string
  read
    | .string value => .ok value
    | _ => .error .mistyped

def count : Format Nat where
  write := nat
  read
    | .int (.ofNat n) => .ok n
    | _ => .error .mistyped

def truth : Format Bool where
  write := .bool
  read
    | .bool value => .ok value
    | _ => .error .mistyped

def option (f : Format α) : Format (Option α) where
  write := ofOption f.write
  read
    | .null => .ok none
    | value => (f.read value).map some

def list (f : Format α) : Format (List α) where
  write items := .array (items.map f.write)
  read
    | .array items => items.mapM f.read
    | _ => .error .mistyped

def readText (f : Format α) (text : String) : Except ReadError α :=
  match parse? text with
  | some value => f.read value
  | none => .error .malformed

end Format

structure Field (α : Type) where
  key : String
  format : Format α
  /-- Whether the field is left out for a value. -/
  skips : α → Bool
  /-- What is read when the field is not there. -/
  default? : Option α

namespace Field

def required (key : String) (format : Format α) : Field α := ⟨key, format, fun _ => false, none⟩

def optional (key : String) (format : Format α) : Field (Option α) :=
  ⟨key, format.option, Option.isNone, some none⟩

def listed (key : String) (format : Format α) : Field (List α) :=
  ⟨key, format.list, List.isEmpty, some []⟩

def write (f : Field α) (value : α) : List (String × Json) :=
  if f.skips value then [] else [(f.key, f.format.write value)]

def absent (f : Field α) : Except ReadError α :=
  match f.default? with
  | some value => .ok value
  | none => .error (.missing f.key)

def read (f : Field α) (members : List (String × Json)) : Except ReadError α :=
  match members.filter (·.1 == f.key) with
  | [] => f.absent
  | [(_, value)] => f.format.read value
  | _ :: _ :: _ => .error (.repeated f.key)

end Field

/-- Some fields of a record, written from the record and read into what is made of them. -/
structure Fields (ρ α : Type) where
  keys : List String
  write : ρ → List (String × Json)
  read : List (String × Json) → Except ReadError α

namespace Fields

def into (make : α) : Fields ρ α := ⟨[], fun _ => [], fun _ => .ok make⟩

def field (fields : Fields ρ (α → β)) (next : Field α) (get : ρ → α) : Fields ρ β where
  keys := fields.keys ++ [next.key]
  write r := fields.write r ++ next.write (get r)
  read members := do
    let make ← fields.read members
    let value ← next.read members
    return make value

/-- Fields that are not known are passed over. -/
def format (fields : Fields ρ ρ) : Format ρ where
  write r := .object (fields.write r)
  read
    | .object members => fields.read members
    | _ => .error .mistyped

end Fields

end TreeLint.Json
