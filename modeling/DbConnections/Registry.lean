import DbConnections.Toolkit
import DbConnections.Validator
import DbConnections.Value.Text
namespace DbConnections

/-- A database engine made from a URL. Its serial is the position in the settings log of the
settings it was made from, so no two engines share one. -/
structure Engine where
  serial : Nat
  url : Url
  backend : Backend
  deriving DecidableEq, Repr

structure Connection where
  name : String
  engine : Engine
  deriving DecidableEq, Repr

structure Session where
  engine : Engine
  deriving DecidableEq, Repr

/-- The open connections, in the order they were added, and the log of all settings ever
added, which closing the connections does not clear. -/
structure Registry where
  connections : List Connection
  configs : List Config
  deriving DecidableEq, Repr

section

variable [Toolkit]

def Engine.create (serial : Nat) (url : Url) : Except Fault Engine := do
  let backend ← Toolkit.createEngine url
  pure ⟨serial, url, backend⟩

end

namespace Registry

def empty : Registry := ⟨[], []⟩

def names (m : Registry) : List String := m.connections.map (·.name)

def find? (m : Registry) (name : String) : Option Connection :=
  m.connections.find? (·.name == name)

def checkDriver (dialect : String) : Except Fault Unit :=
  match Requirement.of? dialect with
  | some r => .error (.missingDriver r dialect)
  | none => .ok ()

def checkDriverValue : Value → Except Fault Unit
  | .text d => checkDriver d
  | .bytes _ => .error .bytesSplit
  | v => .error (.noSplit v.typeName)

section

variable [Toolkit]

/-- Adds the connection of checked settings to the registry's state. The name must be free, the
driver package present and the engine made; only then does the connection join the end of the
open ones, and then the settings the end of the log. A fault leaves the state as it stands when
it is raised. -/
def addConnection (c : Config) : EStateM Fault Registry Unit := do
  let m ← get
  if m.names.contains c.name then throw (.duplicateName c.name)
  MonadExcept.ofExcept (checkDriver c.dialect)
  let engine ← MonadExcept.ofExcept (Engine.create m.configs.length (Url.ofConfig c))
  modify fun m => { m with connections := m.connections ++ [⟨c.name, engine⟩] }
  modify fun m => { m with configs := m.configs ++ [c] }

def add (m : Registry) (c : Config) : Except Fault Registry :=
  match (addConnection c).run m with
  | .ok () m' => .ok m'
  | .error f _ => .error f

end

section

variable [Toolkit] [Validator]

def addValue (m : Registry) (v : Value) : Except Fault Registry := do
  let c ← (Config.ofValue v).mapError Fault.rejected
  m.add c

end

/-- The open connection a name stands for. Only a text name can match; a list or an object
cannot be a name at all. -/
def lookup (m : Registry) (name : Value) : Except Fault Connection :=
  match name, name.scalarText? with
  | _, none => .error (.unhashable name.typeName)
  | .text s, _ =>
    match m.find? s with
    | some c => .ok c
    | none => .error (.notFound s)
  | _, some t => .error (.notFound t)

def engine (m : Registry) (name : Value) : Except Fault Engine :=
  (m.lookup name).map (·.engine)

def session (m : Registry) (name : Value) : Except Fault Session :=
  (m.lookup name).map fun c => ⟨c.engine⟩

def closeAll (m : Registry) : Registry := { m with connections := [] }

@[simp]
theorem closeAll_connections (m : Registry) : m.closeAll.connections = [] := rfl

@[simp]
theorem closeAll_configs (m : Registry) : m.closeAll.configs = m.configs := rfl

@[simp]
theorem names_closeAll (m : Registry) : m.closeAll.names = [] := rfl

def wordBound : Int := Int.pow 2 63

/-- The settings at a position of the log; a negative position counts from the end. -/
def configAtInt (m : Registry) (i : Int) : Except Fault Config :=
  if i < -wordBound ∨ wordBound ≤ i then .error .indexTooLarge
  else
    let j := if i < 0 then i + m.configs.length else i
    if j < 0 then .error .indexOutOfRange
    else match m.configs[j.toNat]? with
      | some c => .ok c
      | none => .error .indexOutOfRange

def configAt (m : Registry) : Value → Except Fault Config
  | .int i => m.configAtInt i
  | .bool b => m.configAtInt (if b then 1 else 0)
  | v => .error (.badIndex v.typeName)

/-- The items of a collection of settings: a list's elements, an object's keys, a text's
characters, a byte string's bytes. -/
def items : Value → Except Fault (List Value)
  | .list xs => .ok xs
  | .object fs => .ok (fs.map fun f => .text f.1)
  | .text s => .ok (s.toList.map fun c => .text (String.singleton c))
  | .bytes bs => .ok (bs.map fun b => .int b.toNat)
  | v => .error (.notIterable v.typeName)

section

variable [Toolkit] [Validator]

/-- Checks and adds one item of the starting collection. Refused fields raised anywhere in the
check or the add fail the start as a refused start. -/
def addAtStart (m : Registry) (v : Value) : Except Fault Registry :=
  (m.addValue v).mapError Fault.raisedAtStart

/-- The registry created from a collection of settings: each item is checked and added in
turn, and the first failure fails the whole. -/
def ofValue (configs : Value) : Except Fault Registry := do
  let xs ← items configs
  xs.foldlM addAtStart empty

end

end Registry

end DbConnections
