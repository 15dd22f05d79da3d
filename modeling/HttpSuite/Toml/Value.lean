/-!
# TOML values
-/

namespace HttpSuite.Toml

/-- A floating-point number as it is written: a special value, or a mantissa times a power of ten. -/
inductive Decimal where
  /-- Infinity or not a number. -/
  | special
  | scaled (mantissa : Nat) (exponent : Int)
  deriving DecidableEq, Repr

/-- Is a number below the least one that rounds to infinity as a double? The number of digits decides
all but the numbers close to it. -/
def Decimal.isFinite : Decimal → Bool
  | special => true
  | scaled mantissa exponent =>
    let limit := Nat.pow 2 1024 - Nat.pow 2 970
    let magnitude := ((toString mantissa).length : Int) + exponent
    if mantissa = 0 ∨ magnitude < 300 then true
    else if 320 < magnitude then false
    else if 0 ≤ exponent then mantissa * Nat.pow 10 exponent.toNat < limit
    else mantissa < limit * Nat.pow 10 (-exponent).toNat

/-- A value. Tables keep the order of their keys. -/
inductive Value where
  | string (text : String)
  | integer (n : Int)
  | float (d : Decimal)
  | boolean (b : Bool)
  | dateTime
  | array (elements : List Value)
  | table (entries : List (String × Value))
  deriving Repr, Inhabited

mutual

/-- Can a value be read into memory, whatever it is used for? Integers fit 128 bits and other numbers
are finite. -/
def Value.isReadable : Value → Bool
  | .integer n => if n < 0 then n.natAbs ≤ Nat.pow 2 127 else n.natAbs < Nat.pow 2 128
  | .float d => d.isFinite
  | .array elements => allReadable elements
  | .table entries => allEntriesReadable entries
  | _ => true

/-- Can all values of a list be read? -/
def allReadable : List Value → Bool
  | [] => true
  | v :: vs => v.isReadable && allReadable vs

/-- Can all values of a table be read? -/
def allEntriesReadable : List (String × Value) → Bool
  | [] => true
  | (_, v) :: entries => v.isReadable && allEntriesReadable entries

end

end HttpSuite.Toml
