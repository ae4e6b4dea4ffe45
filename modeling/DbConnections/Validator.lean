import DbConnections.Config.Field
namespace DbConnections

/-- What checking settings takes from the validation library it runs on: its validation of a
model's fields and the text of its report. The laws are the library's documented behaviour on
these fields. An infinite number in an integer field raises at once. Otherwise each field is
validated on its own, and the settings are accepted exactly when every field is, or refused
with one issue for each field that is not, in field order. The report's text has no law.
`Validator/Installed.lean` gives the one the library is run with. -/
class Validator where
  validate : List (String × Value) → Except Rejection Config
  report : List (Field × Issue) → String
  validate_of_holdsInfinity {fields : List (String × Value)} :
    Config.holdsInfinity fields = true → validate fields = .error .infiniteInteger
  validate_eq_ok_iff {fields : List (String × Value)} {c : Config} :
    Config.holdsInfinity fields = false →
      (validate fields = .ok c ↔ ∀ f : Field, f.read (fields.lookup f.key) = .ok (c.field f))
  validate_eq_error_iff {fields : List (String × Value)} {r : Rejection} :
    Config.holdsInfinity fields = false →
      (validate fields = .error r ↔
        r = .invalid (Config.fieldIssues fields) ∧ Config.fieldIssues fields ≠ [])

variable [Validator]

namespace Config

/-- Checks settings given as a value, which must be an object without the reserved key. -/
def ofValue : Value → Except Rejection Config
  | .object fields =>
    if fields.any (·.1 == reservedKey) then .error .reservedKey else Validator.validate fields
  | v => .error (.notMapping v.typeName)

end Config

namespace Rejection

def message : Rejection → String
  | .invalid issues => Validator.report issues
  | .notMapping t => "Database.DatabaseConfig() argument after ** must be a mapping, not " ++ t
  | .infiniteInteger => "cannot convert float infinity to integer"
  | .reservedKey =>
    "BaseModel.__init__() got multiple values for argument '__pydantic_self__'"

end Rejection

end DbConnections
