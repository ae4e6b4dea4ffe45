import DbConnections.Config
namespace DbConnections

/-- The parts of a connection URL. -/
structure Url where
  drivername : String
  username : Option String
  password : Option String
  host : Option String
  port : Option Nat
  database : String
  deriving DecidableEq, Repr

def Url.ofConfig (c : Config) : Url :=
  ⟨c.dialect, c.username, c.password, c.host, c.port, c.database⟩

end DbConnections
