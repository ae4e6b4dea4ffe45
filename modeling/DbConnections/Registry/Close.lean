import DbConnections.Registry
namespace DbConnections

inductive Release where
  | disposeEngine
  | closeSessions
  | removeSession
  deriving DecidableEq, Repr

def Connection.releases (c : Connection) : List (Connection × Release) :=
  [(c, .disposeEngine), (c, .closeSessions), (c, .removeSession)]

structure Closing where
  registry : Registry
  calls : List (Connection × Release)
  outcome : Except Fault Unit
  deriving Repr

namespace Registry

def erase (m : Registry) (name : String) : Registry :=
  { m with connections := m.connections.eraseP (·.name == name) }

/-- The closing loop over names in turn: each name's connection is released and its entry
deleted. A name with no entry stops the loop, with the registry as it is then. -/
def closeEach (m : Registry) : List String → Closing
  | [] => ⟨m, [], .ok ()⟩
  | n :: ns =>
    match m.find? n with
    | none => ⟨m, [], .error (.missingKey n)⟩
    | some c =>
      let rest := (m.erase n).closeEach ns
      { rest with calls := c.releases ++ rest.calls }

/-- Closes every connection: the closing loop over a snapshot of the open names. -/
def closeConnections (m : Registry) : Closing := m.closeEach m.names

end Registry

end DbConnections
