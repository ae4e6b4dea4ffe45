import DbConnections.Value
namespace DbConnections

inductive Field where
  | name
  | dialect
  | database
  | username
  | password
  | host
  | port
  | poolSize
  | maxOverflow
  deriving DecidableEq, Repr

namespace Field

def key : Field → String
  | .name => "name"
  | .dialect => "dialect"
  | .database => "database"
  | .username => "username"
  | .password => "password"
  | .host => "host"
  | .port => "port"
  | .poolSize => "pool_size"
  | .maxOverflow => "max_overflow"

def all : List Field :=
  [.name, .dialect, .database, .username, .password, .host, .port, .poolSize, .maxOverflow]

end Field

/-- Checked connection settings. -/
structure Config where
  name : String
  dialect : String
  database : String
  username : Option String
  password : Option String
  host : Option String
  port : Option Nat
  poolSize : Nat
  maxOverflow : Nat
  deriving DecidableEq, Repr

namespace Config

def nameMin : Nat := 3

def nameMax : Nat := 50

def portBound : Nat := 65536

def defaultPoolSize : Nat := 5

def defaultMaxOverflow : Nat := 10

/-- Settings that a check accepts: a name of 3 to 50 characters, a port between 1 and 65535
if any, and a pool of at least one connection. -/
def Valid (c : Config) : Prop :=
  nameMin ≤ c.name.length ∧ c.name.length ≤ nameMax ∧
    (∀ p ∈ c.port, 0 < p ∧ p < portBound) ∧ 0 < c.poolSize

def optionalValue : Option String → Value
  | none => .null
  | some s => .text s

/-- The settings as data, every field under its key, in field order. -/
def toValue (c : Config) : Value :=
  .object
    [(Field.name.key, .text c.name), (Field.dialect.key, .text c.dialect),
     (Field.database.key, .text c.database), (Field.username.key, optionalValue c.username),
     (Field.password.key, optionalValue c.password), (Field.host.key, optionalValue c.host),
     (Field.port.key, match c.port with
       | none => .null
       | some p => .int p),
     (Field.poolSize.key, .int c.poolSize), (Field.maxOverflow.key, .int c.maxOverflow)]

end Config

end DbConnections
