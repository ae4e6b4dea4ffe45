import DbConnections.Value
import DbConnections.Binary64.Notation
namespace DbConnections

namespace Value

/-- Numbers are written with the fewest digits that read back, positionally when the leading
digit stands for `10 ^ -4` up to `10 ^ 15`, with `.0` after a whole number, and otherwise with
an exponent that has a sign and at least two digits; a tie goes to the even digit. -/
def numberNotation : Binary64.Notation where
  plainFrom := -4
  plainBelow := 16
  pointZero := true
  exponentMark := "e"
  exponentPlus := true
  exponentWidth := 2
  tie := .toEven
  zero := "0.0"
  infinity := "inf"
  notANumber := "nan"

def boolText (b : Bool) : String := if b then "True" else "False"

def floatText (x : Binary64) : String := numberNotation.render x

def literalByte (quote : UInt8) (b : UInt8) : List Char :=
  if b == quote || b == 0x5C then ['\\', Char.ofNat b.toNat]
  else if b == 0x09 then ['\\', 't']
  else if b == 0x0A then ['\\', 'n']
  else if b == 0x0D then ['\\', 'r']
  else if b < 0x20 || 0x7F ≤ b then
    let ds := Nat.toDigits 16 b.toNat
    ['\\', 'x'] ++ List.replicate (2 - ds.length) '0' ++ ds
  else [Char.ofNat b.toNat]

/-- A byte string as a literal: `b'...'`, or `b"..."` when it holds a single quote and no
double quote. -/
def bytesLiteral (bs : List UInt8) : String :=
  let quote : UInt8 := if bs.contains 0x27 && !bs.contains 0x22 then 0x22 else 0x27
  let q := Char.ofNat quote.toNat
  String.ofList ('b' :: q :: bs.flatMap (literalByte quote) ++ [q])

/-- The text of a value that is not a list or an object. -/
def scalarText? : Value → Option String
  | .null => some "None"
  | .bool b => some (boolText b)
  -- within the digit bound of `Value`, as for `toText`
  | .int n => some (toString n)
  | .float x => some (floatText x)
  | .text s => some s
  | .bytes bs => some (bytesLiteral bs)
  | .list _ | .object _ => none

end Value

end DbConnections
