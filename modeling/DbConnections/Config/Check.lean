import DbConnections.Config.Coerce
namespace DbConnections

namespace Config

def requiredText : Option Value → Except Issue String
  | none => .error .missing
  | some .null => .error .noneNotAllowed
  | some v => v.toText

def optionalText : Option Value → Except Issue (Option String)
  | none | some .null => .ok none
  | some v => some <$> v.toText

def readName (v : Option Value) : Except Issue String := do
  let s ← requiredText v
  if s.length < nameMin then throw (.tooShort nameMin)
  else if nameMax < s.length then throw (.tooLong nameMax)
  else pure s

/-- The port: absent, null, or an integer from 1 below `portBound`. -/
def readPort : Option Value → Except Issue (Option Nat)
  | none | some .null => .ok none
  | some v => do
    let n ← v.toInteger
    if n ≤ 0 then throw (.notGreater 0)
    else if portBound ≤ n then throw (.notLess portBound)
    else pure (some n.toNat)

def readPoolSize : Option Value → Except Issue Nat
  | none => .ok defaultPoolSize
  | some .null => .error .noneNotAllowed
  | some v => do
    let n ← v.toInteger
    if n ≤ 0 then throw (.notGreater 0) else pure n.toNat

def readMaxOverflow : Option Value → Except Issue Nat
  | none => .ok defaultMaxOverflow
  | some .null => .error .noneNotAllowed
  | some v => do
    let n ← v.toInteger
    if n < 0 then throw (.notAtLeast 0) else pure n.toNat

def issueOf {α : Type} (f : Field) : Except Issue α → Option (Field × Issue)
  | .ok _ => none
  | .error i => some (f, i)

/-- Whether an integer field holds an infinite number. -/
def holdsInfinity (fields : List (String × Value)) : Bool :=
  [Field.port, Field.poolSize, Field.maxOverflow].any fun f =>
    (fields.lookup f.key).any Value.isInfinite

/-- Checks settings given as the fields of an object. An infinite number in an integer field
stops the check; otherwise each field is read from its own key. -/
def ofFields (fields : List (String × Value)) : Except Rejection Config :=
  if holdsInfinity fields then .error .infiniteInteger
  else
    let get (f : Field) := fields.lookup f.key
    match readName (get .name), requiredText (get .dialect), requiredText (get .database),
      optionalText (get .username), optionalText (get .password), optionalText (get .host),
      readPort (get .port), readPoolSize (get .poolSize), readMaxOverflow (get .maxOverflow) with
    | .ok name, .ok dialect, .ok database, .ok username, .ok password, .ok host, .ok port,
      .ok poolSize, .ok maxOverflow =>
      .ok ⟨name, dialect, database, username, password, host, port, poolSize, maxOverflow⟩
    | name, dialect, database, username, password, host, port, poolSize, maxOverflow =>
      .error (.invalid
        ([issueOf .name name, issueOf .dialect dialect, issueOf .database database,
          issueOf .username username, issueOf .password password, issueOf .host host,
          issueOf .port port, issueOf .poolSize poolSize,
          issueOf .maxOverflow maxOverflow].filterMap id))

/-- The key that names the check's own receiver; settings may not hold it. -/
def reservedKey : String := "__pydantic_self__"

end Config

end DbConnections
