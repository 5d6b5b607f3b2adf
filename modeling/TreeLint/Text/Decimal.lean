namespace TreeLint

/-- The number `digits / 10 ^ places`. -/
structure Decimal where
  digits : Int
  places : Nat
  deriving DecidableEq, Repr

namespace Decimal

def trim (digits : Int) : Nat → Decimal
  | 0 => ⟨digits, 0⟩
  | n + 1 => if digits % 10 = 0 then trim (digits / 10) n else ⟨digits, n + 1⟩

def reduce (d : Decimal) : Decimal := trim d.digits d.places

/-- The number `coefficient * 10 ^ exponent`. -/
def ofScientific (coefficient exponent : Int) : Decimal :=
  if 0 ≤ exponent then ⟨coefficient * Nat.pow 10 exponent.toNat, 0⟩
  else reduce ⟨coefficient, (-exponent).toNat⟩

private def padLeft (width : Nat) (text : List Char) : List Char :=
  List.replicate (width - text.length) '0' ++ text

/-- Positional notation that always has a fraction. -/
def text (d : Decimal) : String :=
  let r := d.reduce
  let sign := if r.digits < 0 then "-" else ""
  let shown := padLeft (r.places + 1) (toString r.digits.natAbs).toList
  let whole := shown.take (shown.length - r.places)
  let fraction := shown.drop (shown.length - r.places)
  sign ++ String.ofList whole ++ "." ++
    (if fraction.isEmpty then "0" else String.ofList fraction)

end Decimal

end TreeLint
