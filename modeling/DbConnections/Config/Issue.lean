import DbConnections.Config
import DbConnections.Text.Utf8
namespace DbConnections

inductive Issue where
  | missing
  | noneNotAllowed
  | notText
  | undecodable (e : Utf8.Error)
  | tooShort (limit : Nat)
  | tooLong (limit : Nat)
  | notInteger
  | notGreater (limit : Int)
  | notLess (limit : Int)
  | notAtLeast (limit : Int)
  deriving DecidableEq, Repr

namespace Issue

def message : Issue → String
  | .missing => "field required"
  | .noneNotAllowed => "none is not an allowed value"
  | .notText => "str type expected"
  | .undecodable e => e.message
  | .tooShort n => "ensure this value has at least " ++ toString n ++ " characters"
  | .tooLong n => "ensure this value has at most " ++ toString n ++ " characters"
  | .notInteger => "value is not a valid integer"
  | .notGreater n => "ensure this value is greater than " ++ toString n
  | .notLess n => "ensure this value is less than " ++ toString n
  | .notAtLeast n => "ensure this value is greater than or equal to " ++ toString n

def code : Issue → String
  | .missing => "value_error.missing"
  | .noneNotAllowed => "type_error.none.not_allowed"
  | .notText => "type_error.str"
  | .undecodable _ => "value_error.unicodedecode"
  | .tooShort _ => "value_error.any_str.min_length"
  | .tooLong _ => "value_error.any_str.max_length"
  | .notInteger => "type_error.integer"
  | .notGreater _ => "value_error.number.not_gt"
  | .notLess _ => "value_error.number.not_lt"
  | .notAtLeast _ => "value_error.number.not_ge"

def limit? : Issue → Option Int
  | .tooShort n | .tooLong n => some n
  | .notGreater n | .notLess n | .notAtLeast n => some n
  | _ => none

def detail (i : Issue) : String :=
  "type=" ++ i.code ++ match i.limit? with
    | some n => "; limit_value=" ++ toString n
    | none => ""

end Issue

/-- Why settings were refused. -/
inductive Rejection where
  | invalid (issues : List (Field × Issue))
  | notMapping (typeName : String)
  | infiniteInteger
  | reservedKey
  deriving DecidableEq, Repr

namespace Rejection

/-- The report of refused fields: a count, then each field's key and its fault. -/
def report (issues : List (Field × Issue)) : String :=
  let count := issues.length
  let header := toString count ++ " validation error" ++ (if count = 1 then "" else "s") ++
    " for DatabaseConfig"
  header ++ String.join (issues.map fun (f, i) =>
    "\n" ++ f.key ++ "\n  " ++ i.message ++ " (" ++ i.detail ++ ")")

end Rejection

end DbConnections
