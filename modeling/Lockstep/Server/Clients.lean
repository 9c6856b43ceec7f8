import Lockstep.Server

/-!
# Clients of a server

Clients that go by names, and what each of them meets when it connects to a server and exchanges
messages with it. A session keeps the transform of its route, and nothing that another client does
touches it. When a client connects again its older session is over; when it fails to, that session
goes on.
-/

namespace Lockstep

/-- What a client does with its connection. -/
inductive Act where
  | send (payload : Payload)
  | ping (octets : List UInt8)
  | pong (octets : List UInt8)
  | close (reason : Option CloseReason)
  /-- Drops the connection without a close frame. -/
  | drop
  /-- Sends a data frame and aborts the connection. -/
  | sendReset (payload : Payload)
deriving DecidableEq, Repr

/-- What a client does. -/
inductive Deed where
  | connect (uri : String)
  | act (a : Act)
deriving DecidableEq, Repr

/-- What a client meets. -/
inductive Meeting where
  | connected
  | rejected (status : Nat) (body : String)
  /-- The request has no answer: it did not get as far as the server, or the server could not read
  it. -/
  | unopened (cause : SocketFault)
  /-- The client has no session. -/
  | notConnected
  | reply (m : Message)
  /-- What was sent has no reply. -/
  | sent
  /-- The messages up to the end of the session. -/
  | closed (messages : List Message)
  | dropped
deriving DecidableEq, Repr

/-- The sessions of a server: the name of each client, and the transform of its route. -/
abbrev Clients := List (String × Transform)

namespace Clients

/-- The clients without the one of this name. -/
def without (cs : Clients) (name : String) : Clients := cs.filter (·.1 ≠ name)

/-- The clients with a session for the one of this name. -/
def withSession (cs : Clients) (name : String) (t : Transform) : Clients :=
  (name, t) :: cs.without name

theorem lookup_without (cs : Clients) (name : String) : (cs.without name).lookup name = none := by
  simp only [without, List.lookup_eq_none_iff, List.mem_filter]
  rintro ⟨key, t⟩ ⟨-, hk⟩
  have hne : key ≠ name := by simpa using hk
  simpa using hne.symm

theorem lookup_without_of_ne (cs : Clients) {name other : String} (hne : other ≠ name) :
    (cs.without name).lookup other = cs.lookup other := by
  induction cs with
  | nil => rfl
  | cons c cs ih =>
    obtain ⟨key, t⟩ := c
    by_cases h : key = name
    · have hb : (other == name) = false := by simpa using hne
      simpa [without, h, List.lookup_cons, hb] using ih
    · by_cases ho : other = key
      · simp [without, ← ho, hne]
      · have hb : (other == key) = false := by simpa using ho
        simpa [without, h, List.lookup_cons, hb] using ih

@[simp] theorem lookup_withSession (cs : Clients) (name : String) (t : Transform) :
    (cs.withSession name t).lookup name = some t := by
  simp [withSession]

@[simp] theorem lookup_withSession_of_ne (cs : Clients) {name other : String} (t : Transform)
    (hne : other ≠ name) : (cs.withSession name t).lookup other = cs.lookup other := by
  have hb : (other == name) = false := by simpa using hne
  simp [withSession, List.lookup_cons, hb, lookup_without_of_ne cs hne]

/-- A client asks for `uri`. `barrier` is the fault that keeps requests from the server, if there
is one. -/
def connect (cs : Clients) (s : Server) (barrier : Option SocketFault) (name uri : String) :
    Clients × Meeting :=
  match Request.ofUri uri, barrier with
  | .error e, _ => (cs, .unopened (.uri e))
  | .ok _, some cause => (cs, .unopened cause)
  | .ok request, none =>
    match s.resolve request with
    | .ok t => (cs.withSession name t, .connected)
    | .error (.http status) => (cs, .rejected status (Server.refusal request.path))
    | .error cause => (cs, .unopened cause)

/-- A client of the route with transform `t` does something with its connection. -/
def act (cs : Clients) (name : String) (t : Transform) : Act → Clients × Meeting
  | .send p => (cs, .reply (.data (t.apply p)))
  | .ping b => (cs, .reply (.pong b))
  | .pong _ => (cs, .sent)
  | .close r => (cs.without name, .closed (Server.replies t [.close r]))
  | .drop => (cs.without name, .dropped)
  | .sendReset _ => (cs.without name, .sent)

/-- One deed of one client. -/
def step (cs : Clients) (s : Server) (barrier : Option SocketFault) (name : String) :
    Deed → Clients × Meeting
  | .connect uri => cs.connect s barrier name uri
  | .act a => match cs.lookup name with
    | some t => cs.act name t a
    | none => (cs, .notConnected)

/-- Deeds of clients, one after the other. -/
def run (s : Server) (barrier : Option SocketFault) : Clients → List (String × Deed) → List Meeting
  | _, [] => []
  | cs, (name, deed) :: rest =>
    let (cs, meeting) := cs.step s barrier name deed
    meeting :: run s barrier cs rest

end Clients

end Lockstep
