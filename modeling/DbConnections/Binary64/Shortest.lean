import DbConnections.Binary64
namespace DbConnections

structure Decimal where
  digits : Nat
  exponent : Int
  deriving DecidableEq, Repr

inductive Tie where
  | toEven
  | up
  deriving DecidableEq, Repr

namespace Decimal

def normalize (d : Decimal) : Decimal :=
  if h : d.digits ≠ 0 ∧ d.digits % 10 = 0 then
    normalize ⟨d.digits / 10, d.exponent + 1⟩
  else d
termination_by d.digits
decreasing_by exact Nat.div_lt_self (Nat.pos_of_ne_zero h.1) (by decide)

def compareValue (a b : Decimal) : Ordering :=
  compare (a.digits * Nat.pow 10 (a.exponent - b.exponent).toNat)
    (b.digits * Nat.pow 10 (b.exponent - a.exponent).toNat)

def width (n : Nat) : Nat := (Nat.toDigits 10 n).length

def floorAt (d : Decimal) (g : Int) : Nat :=
  if g ≤ d.exponent then d.digits * Nat.pow 10 (d.exponent - g).toNat
  else d.digits / Nat.pow 10 (g - d.exponent).toNat

end Decimal

namespace Binary64

def exactDecimal (m : Nat) (q : Int) : Decimal :=
  if 0 ≤ q then ⟨m * Nat.pow 2 q.toNat, 0⟩ else ⟨m * Nat.pow 5 q.natAbs, q⟩

def compareScaled (a : Nat) (s : Int) (b : Nat) (t : Int) : Ordering :=
  compare (a * Nat.pow 10 s.toNat * Nat.pow 2 (-t).toNat) (b * Nat.pow 2 t.toNat * Nat.pow 10 (-s).toNat)

/-- Whether `d · 10 ^ g` rounds to `m · 2 ^ q`. In units of `2 ^ (q - 2)` the value is `4m`,
the upper end of its interval `4m + 2`, and the lower end `4m - 2`, or `4m - 1` when the gap
below is narrow. Round-to-even keeps both ends exactly when `m` is even. -/
def roundsTo (m : Nat) (q : Int) (narrow : Bool) (d : Nat) (g : Int) : Bool :=
  let closed := m % 2 == 0
  let below := compareScaled d g (4 * m - if narrow then 1 else 2) (q - 2)
  let above := compareScaled d g (4 * m + 2) (q - 2)
  (below == .gt || (closed && below == .eq)) && (above == .lt || (closed && above == .eq))

/-- The decimal of `n` significant digits that rounds to `m · 2 ^ q`, if there is one: only the
two neighbours of the value on the grid `10 ^ g` can be in its interval, and if both are, the
nearer wins and `tie` decides between equally near ones. -/
def pickAt (tie : Tie) (m : Nat) (q : Int) (narrow : Bool) (lead : Int) (n : Nat) :
    Option Decimal :=
  let exact := exactDecimal m q
  let g := lead - n
  let c := exact.floorAt g
  match roundsTo m q narrow c g, roundsTo m q narrow (c + 1) g with
  | false, false => none
  | true, false => some ⟨c, g⟩
  | false, true => some ⟨c + 1, g⟩
  | true, true =>
    match Decimal.compareValue ⟨2 * exact.digits, exact.exponent⟩ ⟨2 * c + 1, g⟩ with
    | .lt => some ⟨c, g⟩
    | .gt => some ⟨c + 1, g⟩
    | .eq =>
      match tie with
      | .toEven => some ⟨if c % 2 == 0 then c else c + 1, g⟩
      | .up => some ⟨c + 1, g⟩

/-- The shortest decimal that rounds to `m · 2 ^ q`, with no trailing zero digit. Seventeen
significant digits always suffice for a double; the exact value stands behind them. -/
def shortest (tie : Tie) (m : Nat) (q : Int) (narrow : Bool) : Decimal :=
  let exact := exactDecimal m q
  -- the value lies in `[10 ^ (lead - 1), 10 ^ lead)`
  let lead : Int := Decimal.width exact.digits + exact.exponent
  let found := (List.range' 1 17).findSome? (pickAt tie m q narrow lead)
  (found.getD exact).normalize

end Binary64

end DbConnections
