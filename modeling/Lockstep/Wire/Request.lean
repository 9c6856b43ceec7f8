import Lockstep.Fault.Socket

/-!
# Requests

The request with which a client opens a connection, taken from the URI of an endpoint. A URI with
a character that may not stand in its place is no request, and nothing is sent for it. The fragment
is no part of a request.

What the client writes of the URI is the path and the query, as they stand there. If it has a query
and no path, that does not begin with a slash, and no server can read it.
-/

namespace Lockstep

structure Request where
  authority : String
  /-- The path, byte for byte, and a slash if there is neither a path nor a query. -/
  path : String
  query : Option String
deriving DecidableEq, Repr

namespace Request

/-- What the client writes for the server to read. -/
def target (r : Request) : String :=
  match r.query with
  | some q => r.path ++ "?" ++ q
  | none => r.path

/-- A server reads a target that begins with a slash. -/
def isReadable (r : Request) : Bool := r.target.toList.head? = some '/'

/-! ## Authorities -/

/-- The characters that may stand in an authority, or end it. -/
def isUriChar (c : Char) : Bool :=
  c.isAlphanum || "!#$&'()*+,-./:;=?@[]_~".toList.contains c

/-- An authority being read. -/
structure Authority where
  colons : Nat
  opened : Bool
  closed : Bool
  percent : Bool
  /-- The last character was an at sign. -/
  atSign : Bool

namespace Authority

def start : Authority := ⟨0, false, false, false, false⟩

/-- Brackets come once and in pairs, and a percent sign stands only before an at sign or in
brackets. -/
def step (a : Authority) (c : Char) : Except UriFault Authority :=
  let a := { a with atSign := false }
  match c with
  | ':' => if 8 ≤ a.colons then .error .authority else .ok { a with colons := a.colons + 1 }
  | '[' => if a.percent || a.opened then .error .authority else .ok { a with opened := true }
  | ']' =>
    if !a.opened || a.closed then .error .authority
    else .ok { a with closed := true, colons := 0, percent := false }
  | '@' => .ok { a with colons := 0, percent := false, atSign := true }
  | '%' => .ok { a with percent := true }
  | c => if isUriChar c then .ok a else .error .character

def check (s : List Char) : Except UriFault Unit := do
  let a ← s.foldlM step start
  if a.opened ≠ a.closed ∨ 1 < a.colons ∨ a.atSign ∨ a.percent then .error .authority
  else if s = [] then .error .format
  else .ok ()

end Authority

/-! ## Paths and queries -/

/-- The characters that may stand in a path. -/
def isPathChar (c : Char) : Bool :=
  let n := c.toNat
  n = 0x21 || n = 0x22 || (0x24 ≤ n && n ≤ 0x3B) || n = 0x3D || (0x40 ≤ n && n ≤ 0x5F) ||
    (0x61 ≤ n && n ≤ 0x7E) || 0x7F ≤ n

/-- The characters that may stand in a query. -/
def isQueryChar (c : Char) : Bool :=
  let n := c.toNat
  n = 0x21 || (0x24 ≤ n && n ≤ 0x3B) || n = 0x3D || 0x3F ≤ n

/-! ## Requests -/

/-- The longest URI, in octets. -/
def longest : Nat := 65534

/-- The request for what follows the scheme and its slashes. -/
def ofSite (s : List Char) : Except UriFault Request := do
  let endsAuthority (c : Char) : Bool := c = '/' || c = '?' || c = '#'
  let authority := s.takeWhile (!endsAuthority ·)
  Authority.check authority
  let rest := (s.dropWhile (!endsAuthority ·)).takeWhile (· ≠ '#')
  let path := rest.takeWhile (· ≠ '?')
  let query := (rest.dropWhile (· ≠ '?')).tail?
  if path.all isPathChar && (query.getD []).all isQueryChar then
    return ⟨String.ofList authority,
      String.ofList (if path = [] ∧ query = none then ['/'] else path), query.map String.ofList⟩
  else .error .character

/-- The request for a `ws` URI. -/
def ofUri (uri : String) : Except UriFault Request :=
  if longest < uri.utf8ByteSize then .error .tooLong
  else match uri.toList with
    | 'w' :: 's' :: ':' :: '/' :: '/' :: site => ofSite site
    | _ => .error .format

end Request

end Lockstep
