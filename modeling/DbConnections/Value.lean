import DbConnections.Binary64
namespace DbConnections

/-- A piece of input data. An integer has at most `4300` digits, the most the runtime reads from
text or writes as text: the input's reader refuses a longer one, so none reaches the library,
and the text of every integer here is written in full. -/
inductive Value where
  | null
  | bool (b : Bool)
  | int (n : Int)
  | float (x : Binary64)
  | text (s : String)
  | bytes (bs : List UInt8)
  | list (items : List Value)
  | object (fields : List (String × Value))
  deriving Repr, Inhabited

namespace Value

def typeName : Value → String
  | .null => "NoneType"
  | .bool _ => "bool"
  | .int _ => "int"
  | .float _ => "float"
  | .text _ => "str"
  | .bytes _ => "bytes"
  | .list _ => "list"
  | .object _ => "dict"

def isInfinite : Value → Bool
  | .float x => match x.shape with
    | .infinite _ => true
    | _ => false
  | _ => false

/-- Lists and objects change in place, so they cannot name a thing in a lookup. -/
def isHashable : Value → Bool
  | .list _ | .object _ => false
  | _ => true

end Value

end DbConnections
