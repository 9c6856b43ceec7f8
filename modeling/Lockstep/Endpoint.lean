import Lockstep.Transform

/-!
# Endpoints

Where a server answers, and with which transform.
-/

namespace Lockstep

structure Endpoint where
  host : String
  port : UInt16
  path : String
  transform : Transform
deriving DecidableEq, Repr

namespace Endpoint

/-- `path` with a slash before it, unless it has one. -/
def rooted (path : String) : String := if path.startsWith "/" then path else "/" ++ path

def new (host : String) (port : UInt16) (path : String) (transform : Transform) : Endpoint :=
  ⟨host, port, rooted path, transform⟩

/-- Another route of the same server. -/
def withPath (e : Endpoint) (path : String) (transform : Transform) : Endpoint :=
  new e.host e.port path transform

def uri (e : Endpoint) : String := s!"ws://{e.host}:{e.port}{e.path}"

end Endpoint

end Lockstep
