namespace DbConnections

/-- An IEEE 754 double, kept as its 64 bits. -/
structure Binary64 where
  bits : UInt64
  deriving DecidableEq, Repr

namespace Binary64

inductive Shape where
  | nan
  | infinite (negative : Bool)
  | zero (negative : Bool)
  | finite (negative : Bool) (mantissa : Nat) (exponent : Int) (narrow : Bool)
  deriving DecidableEq, Repr

def ofFloat (x : Float) : Binary64 := ⟨x.toBits⟩

def ofDecimal (negative : Bool) (digits : Nat) (exponent : Int) : Binary64 :=
  -- `digits · 10 ^ exponent` lies in `[10 ^ (top - 1), 10 ^ top)`
  let top : Int := (Nat.toDigits 10 digits).length + exponent
  let magnitude : Float :=
    if digits = 0 ∨ top < -330 then 0
    else if 310 ≤ top then 1 / 0
    else if exponent < 0 then Float.ofScientific digits true exponent.natAbs
    else Float.ofScientific digits false exponent.toNat
  ofFloat (if negative then -magnitude else magnitude)

def shape (x : Binary64) : Shape :=
  let n := x.bits.toNat
  let negative : Bool := n / Nat.pow 2 63 % 2 == 1
  let biased : Nat := n / Nat.pow 2 52 % Nat.pow 2 11
  let fraction : Nat := n % Nat.pow 2 52
  if biased = 2047 then
    if fraction = 0 then .infinite negative else .nan
  else if biased = 0 then
    if fraction = 0 then .zero negative
    else .finite negative fraction (-1074) false
  else
    .finite negative (fraction + Nat.pow 2 52) ((biased : Int) - 1075) (fraction == 0 && biased > 1)

/-- The integer part of a finite double, cut toward zero; `none` for an infinity or NaN. -/
def truncate? (x : Binary64) : Option Int :=
  match x.shape with
  | .nan | .infinite _ => none
  | .zero _ => some 0
  | .finite negative m q _ =>
    let whole : Nat := if 0 ≤ q then m * Nat.pow 2 q.toNat else m / Nat.pow 2 q.natAbs
    some (if negative then -(whole : Int) else whole)

end Binary64

end DbConnections
