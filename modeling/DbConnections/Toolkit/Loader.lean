import DbConnections.Toolkit
import DbConnections.Toolkit.Catalog
namespace DbConnections

namespace Backend

/-- The plug-in name of a driver name: each `+` becomes a dot. -/
def pluginName (drivername : String) : String :=
  String.ofList (drivername.toList.map fun c => if c = '+' then '.' else c)

def member? (family name : String) : Option Plugin.Member :=
  if family = "mariadb" then Plugin.mariadbMember? name
  else (Plugin.packages.find? (·.family == family)).bind (·.member? name)

/-- Loads the plug-in of a driver name. The name is a family and a member of its package
separated by one dot, or a family alone, which means its default driver (`base`). Loading
succeeds only for a driver whose database API module is installed. -/
def load (drivername : String) : Except Fault Backend :=
  let plugin := pluginName drivername
  let found (family name : String) : Except Fault Backend :=
    match member? family name with
    | none => .error (.unknownBackend plugin)
    | some (.found f) => .error (.noDialect f)
    | some .emptyDialect => .error .emptyDialect
    | some (.driver ⟨_, some m⟩) => .error (.missingModule m)
    | some (.driver ⟨d, none⟩) => .ok ⟨family, d⟩
  match plugin.toList.splitOn '.' with
  | [family] => found (String.ofList family) "base"
  | [family, name] => found (String.ofList family) (String.ofList name)
  | _ => .error .malformedBackend

def isFileDatabase (b : Backend) : Bool := b.family == "sqlite"

end Backend

end DbConnections
