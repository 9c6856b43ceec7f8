import Lockstep.Network

/-!
# Servers

A server has routes, and each route answers data frames with a transform of its own. A request is
for a route if its path is that of the route, byte for byte; the query is no part of the path. A
request for anything else is refused with the status 404. A request that the server cannot read is
not answered: the handshake fails.

Of a message that a client sends, a data frame is answered by what the transform makes of it, a ping
by a pong, and a close by a close, which is the last message of the session.
-/

namespace Lockstep

structure Server where
  /-- The transform of the route with this path, if there is one. -/
  route? : String → Option Transform

namespace Server

/-! ## Routes -/

/-- A server without routes. -/
def empty : Server := ⟨fun _ ↦ none⟩

/-- The server with a route added, in the place of one with the same path. -/
def withRoute (s : Server) (path : String) (t : Transform) : Server :=
  ⟨fun p ↦ if p = path then some t else s.route? p⟩

@[simp] theorem route?_withRoute (s : Server) (path p : String) (t : Transform) :
    (s.withRoute path t).route? p = if p = path then some t else s.route? p := rfl

/-- What the chat route puts before each message, unless it is told otherwise. -/
def standardChatBefore : String := "Chat response: "

/-- The echo route and the chat route. -/
def standard : Server :=
  (empty.withRoute "/" .identity).withRoute "/chat" (.before standardChatBefore)

/-- Adds routes in order. -/
def withRoutes (s : Server) (routes : List (String × Transform)) : Server :=
  routes.foldl (fun s r ↦ s.withRoute r.1 r.2) s

/-! ## Requests -/

/-- The status of a request that is for no route. -/
def refusalStatus : Nat := 404

/-- What a client is told whose request is for no route. -/
def refusal (path : String) : String := s!"no route for {path}"

/-- The transform of the route that a request is for, or the fault that comes of the request. -/
def resolve (s : Server) (request : Request) : Except SocketFault Transform :=
  if request.isReadable then
    match s.route? request.path with
    | some t => .ok t
    | none => .error (.http refusalStatus)
  else .error (.protocol .handshakeIncomplete)

theorem resolve_eq_ok {s : Server} {request : Request} {t : Transform} :
    s.resolve request = .ok t ↔ request.isReadable = true ∧ s.route? request.path = some t := by
  unfold resolve
  split
  · rename_i hreadable
    cases s.route? request.path with
    | none => exact iff_of_false nofun nofun
    | some t' => simp [hreadable]
  · rename_i hunread
    exact iff_of_false nofun fun h ↦ hunread h.1

theorem resolve_of_route?_eq_none {s : Server} {request : Request}
    (hreadable : request.isReadable = true) (hroute : s.route? request.path = none) :
    s.resolve request = .error (.http refusalStatus) := by
  rw [resolve, if_pos hreadable, hroute]

def answer (s : Server) (request : Request) : Answer :=
  match s.resolve request with
  | .ok t => .opened (.replying t)
  | .error cause => .failed cause

/-- The server, reached by every request. -/
def network (s : Server) : Network := ⟨fun _ request ↦ s.answer request, fun _ ↦ false⟩

/-! ## Sessions -/

/-- A close frame may carry these codes. -/
def isCloseCode (code : UInt16) : Bool :=
  let n := code.toNat
  (1000 ≤ n && n ≤ 1003) || (1007 ≤ n && n ≤ 1013) || (3000 ≤ n && n ≤ 4999)

/-- The reason that answers the reason of a close: the same, if its code may be used. -/
def closeReply (r : CloseReason) : CloseReason :=
  if isCloseCode r.code then r else ⟨1002, "Protocol violation"⟩

/-- What a route with transform `t` sends back for one message. -/
def reply? (t : Transform) : Message → Option Message
  | .data p => some (.data (t.apply p))
  | .ping b => some (.pong b)
  | .pong _ => none
  | .close r => some (.close (r.map closeReply))

/-- What a route with transform `t` sends back for the messages of one client. -/
def replies (t : Transform) : List Message → List Message
  | [] => []
  | .close r :: _ => (reply? t (.close r)).toList
  | m :: rest => (reply? t m).toList ++ replies t rest

end Server

end Lockstep
