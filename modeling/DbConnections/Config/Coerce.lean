import DbConnections.Config.Issue
import DbConnections.Value.Text
import DbConnections.Text.IntegerLiteral
namespace DbConnections

namespace Value

/-- The value taken as text. -/
def toText : Value → Except Issue String
  | .text s => .ok s
  | .bool b => .ok (boolText b)
  -- an integer within the digit bound of `Value`, which the runtime writes without refusal
  | .int n => .ok (toString n)
  | .float x => .ok (floatText x)
  | .bytes bs =>
    match Utf8.decode bs with
    | .ok s => .ok s
    | .error e => .error (.undecodable e)
  | .null | .list _ | .object _ => .error .notText

/-- The value taken as an integer, or `none` when it gives none. -/
def toInteger? : Value → Option Int
  | .int n => some n
  | .bool b => some (if b then 1 else 0)
  | .float x => x.truncate?
  | .text s => Text.readInteger? s.toList
  | .bytes bs => Text.readIntegerBytes? bs
  | .null | .list _ | .object _ => none

def toInteger (v : Value) : Except Issue Int :=
  match v.toInteger? with
  | some n => .ok n
  | none => .error .notInteger

end Value

end DbConnections
