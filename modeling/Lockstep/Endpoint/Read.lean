import Lockstep.Endpoint
import Lockstep.Url

/-!
# Endpoints from URLs
-/

namespace Lockstep.Endpoint

/-- The endpoint that a `ws` URL names. The query is a part of its path. -/
def ofLocation (l : Location) (transform : Transform) : Endpoint :=
  let query := match l.query with
    | some q => '?' :: q
    | none => []
  new (String.ofList l.host.text) (l.port.getD Url.impliedPort) (String.ofList (l.path ++ query))
    transform

def ofUrl (url : String) (transform : Transform) : Except Fault Endpoint :=
  match Url.parse url.toList with
  | .error e => .error (.url e)
  | .ok (.foreign _) => .error .invalidScheme
  | .ok (.ws l) => .ok (ofLocation l transform)

end Lockstep.Endpoint
