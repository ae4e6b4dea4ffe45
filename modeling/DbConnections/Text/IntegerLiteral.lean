import DbConnections.Text.DecimalDigit
import DbConnections.Text.Blank
namespace DbConnections

namespace Text

def readDigitsFrom (acc : Nat) : List Char → Option Nat
  | [] => some acc
  | '_' :: c :: rest => do
    let d ← digitValue? c
    readDigitsFrom (acc * 10 + d) rest
  | c :: rest => do
    let d ← digitValue? c
    readDigitsFrom (acc * 10 + d) rest

def readDigits : List Char → Option Nat
  | [] => none
  | c :: rest => do
    let d ← digitValue? c
    readDigitsFrom d rest

/-- Integers written with more digits than this are refused, which bounds the work of reading
one; underscores do not count. -/
def maxDigits : Nat := 4300

def readMagnitude? (ds : List Char) : Option Nat :=
  if maxDigits < (ds.filter (· ≠ '_')).length then none else readDigits ds

def trimBlanks (cs : List Char) : List Char :=
  ((cs.dropWhile isBlank).reverse.dropWhile isBlank).reverse

/-- The integer that a text writes, or `none` when it writes no integer. -/
def readInteger? (cs : List Char) : Option Int :=
  match trimBlanks cs with
  | '+' :: ds => (readMagnitude? ds).map Int.ofNat
  | '-' :: ds => (readMagnitude? ds).map fun n => -(n : Int)
  | ds => (readMagnitude? ds).map Int.ofNat

def readIntegerBytes? (bytes : List UInt8) : Option Int :=
  if bytes.all (· < 0x80) then readInteger? (bytes.map fun b => Char.ofNat b.toNat) else none

end Text

end DbConnections
