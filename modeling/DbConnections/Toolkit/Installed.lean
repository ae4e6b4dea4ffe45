import DbConnections.Toolkit.Loader
import DbConnections.Toolkit.Render
namespace DbConnections

def Url.hasAuthority (u : Url) : Bool :=
  u.username.any (· ≠ "") || u.password.any (· ≠ "") || u.host.any (· ≠ "") ||
    u.port.any (· ≠ 0)

/-- Making an engine with the toolkit installed here: the driver name's plug-in must load, and
the file database refuses a URL that names a server. -/
def Backend.createEngine (url : Url) : Except Fault Backend := do
  let backend ← Backend.load url.drivername
  if backend.isFileDatabase && url.hasAuthority then throw (.invalidFileUrl url.text)
  pure backend

instance : Toolkit := ⟨Backend.createEngine⟩

end DbConnections
