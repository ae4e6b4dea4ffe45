import DbConnections.Config.Check
namespace DbConnections

namespace Field

structure Bounds where
  minLength : Option Nat
  maxLength : Option Nat
  greater : Option Int
  atLeast : Option Int
  less : Option Int

def bounds : Field → Bounds
  | .name => ⟨some Config.nameMin, some Config.nameMax, none, none, none⟩
  | .port => ⟨none, none, some 0, none, some Config.portBound⟩
  | .poolSize => ⟨none, none, some 0, none, none⟩
  | .maxOverflow => ⟨none, none, none, some 0, none⟩
  | .dialect | .database | .username | .password | .host => ⟨none, none, none, none, none⟩

namespace Bounds

/-- The first bound a coerced value breaks: for a text the least length, then the greatest; for
an integer the strict lower bound, the non-strict one, then the upper bound. -/
@[simp]
def broken? (b : Bounds) : Value → Option Issue
  | .text s =>
    ((b.minLength.filter (s.length < ·)).map .tooShort).or
      ((b.maxLength.filter (· < s.length)).map .tooLong)
  | .int n =>
    ((b.greater.filter (n ≤ ·)).map .notGreater).or
      (((b.atLeast.filter (n < ·)).map .notAtLeast).or ((b.less.filter (· ≤ n)).map .notLess))
  | _ => none

@[simp]
def check (b : Bounds) (x : Value) : Except Issue Value :=
  match b.broken? x with
  | some i => .error i
  | none => .ok x

end Bounds

/-- What an absent key gives: nothing for the three required fields, null for the optional ones,
and the declared default for the pool size and the overflow. -/
def default? : Field → Option Value
  | .name | .dialect | .database => none
  | .username | .password | .host | .port => some .null
  | .poolSize => some (.int Config.defaultPoolSize)
  | .maxOverflow => some (.int Config.defaultMaxOverflow)

def optional : Field → Bool
  | .username | .password | .host | .port => true
  | .name | .dialect | .database | .poolSize | .maxOverflow => false

def integral : Field → Bool
  | .port | .poolSize | .maxOverflow => true
  | .name | .dialect | .database | .username | .password | .host => false

def coerce (f : Field) (v : Value) : Except Issue Value :=
  if f.integral then Value.int <$> v.toInteger else Value.text <$> v.toText

/-- A field read on its own from what the settings hold under its key, stage by stage: a missing
key, then a null, then the coercion, then the bounds. The first stage that fails gives the
field's issue. -/
def read (f : Field) : Option Value → Except Issue Value
  | none =>
    match f.default? with
    | some d => .ok d
    | none => .error .missing
  | some .null => if f.optional then .ok .null else .error .noneNotAllowed
  | some v => f.coerce v >>= f.bounds.check

theorem coerce_text {f : Field} {v : Value} (hf : f.integral = false) :
    f.coerce v = Value.text <$> v.toText := by
  simp [coerce, hf]

theorem coerce_integer {f : Field} {v : Value} (hf : f.integral = true) :
    f.coerce v = Value.int <$> v.toInteger := by
  simp [coerce, hf]

theorem mem_all (f : Field) : f ∈ all := by
  cases f <;> simp [all]

theorem read_some {f : Field} {v : Value} (hv : v ≠ .null) :
    f.read (some v) = f.coerce v >>= f.bounds.check := by
  cases v
  case null => exact absurd rfl hv
  all_goals rfl

end Field

namespace Config

def field (c : Config) : Field → Value
  | .name => .text c.name
  | .dialect => .text c.dialect
  | .database => .text c.database
  | .username => optionalValue c.username
  | .password => optionalValue c.password
  | .host => optionalValue c.host
  | .port => (c.port.map fun p => Value.int p).getD .null
  | .poolSize => .int c.poolSize
  | .maxOverflow => .int c.maxOverflow

def fieldIssues (fields : List (String × Value)) : List (Field × Issue) :=
  Field.all.filterMap fun f => issueOf f (f.read (fields.lookup f.key))

end Config

end DbConnections
