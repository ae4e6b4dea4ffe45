import DbConnections.Binary64.Shortest
namespace DbConnections

namespace Binary64

/-- How a printer lays out the shortest decimal of a double: the powers of ten, from `plainFrom`
up to `plainBelow`, of a leading digit written positionally; whether such a whole number ends in
`.0`; an exponent's letter, its plus sign and its least width; the tie; and the texts of zero,
an infinity and a NaN. -/
structure Notation where
  plainFrom : Int
  plainBelow : Int
  pointZero : Bool
  exponentMark : String
  exponentPlus : Bool
  exponentWidth : Nat
  tie : Tie
  zero : String
  infinity : String
  notANumber : String

def zeros (n : Nat) : List Char := List.replicate n '0'

def Notation.layout (f : Notation) (ds : List Char) (point : Int) : List Char :=
  let lead := point - 1
  if f.plainFrom ≤ lead ∧ lead < f.plainBelow then
    if point ≤ 0 then
      '0' :: '.' :: zeros point.natAbs ++ ds
    else if ds.length ≤ point.toNat then
      ds ++ zeros (point.toNat - ds.length) ++ (if f.pointZero then ['.', '0'] else [])
    else
      ds.take point.toNat ++ '.' :: ds.drop point.toNat
  else
    let mantissa := match ds with
      | [] => []
      | [d] => [d]
      | d :: rest => d :: '.' :: rest
    let power := Nat.toDigits 10 lead.natAbs
    let sign := if lead < 0 then ['-'] else if f.exponentPlus then ['+'] else []
    mantissa ++ f.exponentMark.toList ++ sign ++ zeros (f.exponentWidth - power.length) ++ power

/-- The text of a double. -/
def Notation.render (f : Notation) (x : Binary64) : String :=
  match x.shape with
  | .nan => f.notANumber
  | .infinite negative => (if negative then "-" else "") ++ f.infinity
  | .zero negative => (if negative then "-" else "") ++ f.zero
  | .finite negative m q narrow =>
    let d := shortest f.tie m q narrow
    let ds := Nat.toDigits 10 d.digits
    String.ofList ((if negative then ['-'] else []) ++ f.layout ds (d.exponent + ds.length))

end Binary64

end DbConnections
