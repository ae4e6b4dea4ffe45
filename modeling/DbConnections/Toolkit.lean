import DbConnections.Url
import DbConnections.Fault
namespace DbConnections

structure Backend where
  family : String
  driver : String
  deriving DecidableEq, Repr

/-- What the registry takes from the database toolkit it runs on: making an engine for a URL,
which gives the engine's dialect or the fault that stopped it. The registry's laws hold for every
toolkit; `Toolkit/Installed.lean` gives the one the library is run with. -/
class Toolkit where
  createEngine : Url → Except Fault Backend

end DbConnections
