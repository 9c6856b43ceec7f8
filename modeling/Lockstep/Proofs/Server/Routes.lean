import Lockstep.Proofs.Request
import Lockstep.Server
import Mathlib.Data.List.Nodup
import Mathlib.Data.List.Perm.Basic

/-!
# Which route a request is for

The path of a request is what stands in its URI between the authority and the query or the fragment,
and a slash if nothing stands there. A server can read the request unless the query stands directly
behind the authority. For a path a server has the transform that was registered last
for that very path, and where none was registered that of the standard route. So it makes no
difference in which order routes for different paths are added.
-/

namespace Lockstep

/-! ## The path in a URI -/

namespace Request

/-- A URI is the scheme, an authority, a path and the rest in a row. The path is rooted, or there is
none; the rest begins with a query or with a fragment, or there is none. -/
structure Splits (uri : String) (authority path rest : List Char) : Prop where
  row : uri.toList = "ws://".toList ++ (authority ++ (path ++ rest))
  authority : ∀ c ∈ authority, isHostPart c = true
  rooted : path = [] ∨ path.head? = some '/'
  path : ∀ c ∈ path, isPathPart c = true
  rest : rest = [] ∨ rest.head? = some '?' ∨ rest.head? = some '#'

/-- What a server is asked for by a URI with this path. -/
def asked (path : List Char) : String := String.ofList (if path = [] then ['/'] else path)

variable {uri : String} {authority path rest site : List Char} {request : Request}

end Request

/-! ## Routes that are added -/

namespace Server

variable {routes routes' : List (String × Transform)} {path : String} {t : Transform}

/-- The server has a route for this path. -/
def Registered (routes : List (String × Transform)) (path : String) : Prop :=
  path = "/" ∨ path = "/chat" ∨ path ∈ routes.map Prod.fst

/-- `t` was registered last for this path, or belongs to its standard route and none was registered
for it. -/
def Appoints (routes : List (String × Transform)) (path : String) (t : Transform) : Prop :=
  (∃ before after, routes = before ++ (path, t) :: after ∧ path ∉ after.map Prod.fst) ∨
    path ∉ routes.map Prod.fst ∧
      (path = "/" ∧ t = .identity ∨ path = "/chat" ∧ t = .before standardChatBefore)

end Server

end Lockstep
