import Lockstep.Url.Host
import Lockstep.Url.Path

/-!
# URLs

Reading of absolute URLs. A URL of the `ws` scheme is taken apart; a URL of any other scheme is only
checked.
-/

namespace Lockstep

/-- What a `ws` URL says. -/
structure Location where
  host : Host
  /-- The port, if it is written and not the one that the scheme implies. -/
  port : Option UInt16
  path : List Char
  query : Option (List Char)
deriving DecidableEq, Repr

inductive Url where
  | ws (location : Location)
  | foreign (scheme : List Char)
deriving DecidableEq, Repr

namespace Url

/-! ## Schemes -/

/-- How the part after the scheme is read. -/
inductive SchemeKind where
  /-- The URL always has a host on the internet. -/
  | special
  | file
  | other
deriving DecidableEq, Repr

def SchemeKind.of (scheme : List Char) : SchemeKind :=
  if scheme ∈ ["http", "https", "ws", "wss", "ftp"].map String.toList then .special
  else if scheme = "file".toList then .file
  else .other

/-- The port that `ws` implies. -/
def impliedPort : UInt16 := 80

/-- The characters of a scheme after its first letter. -/
def isSchemeChar (c : Char) : Bool := c.isAlphanum || c = '+' || c = '-' || c = '.'

/-- The scheme in lower case, and what stands after its colon. -/
def scheme? (s : List Char) : Option (List Char × List Char) :=
  match s, s.dropWhile isSchemeChar with
  | c :: _, ':' :: rest =>
    if c.isAlpha then some ((s.takeWhile isSchemeChar).map Char.toLower, rest) else none
  | _, _ => none

/-- Controls and spaces at the ends are left out, and tabs and line ends everywhere. -/
def clean (s : List Char) : List Char :=
  let isBlank (c : Char) : Bool := c.toNat ≤ 0x20
  let trimmed := ((s.dropWhile isBlank).reverse.dropWhile isBlank).reverse
  trimmed.filter fun c ↦ !(c = '\t' || c = '\n' || c = '\r')

/-! ## Authorities -/

/-- The end of an authority. In a special URL a backslash is a slash. -/
def endsAuthority (special : Bool) (c : Char) : Bool :=
  c = '/' || c = '?' || c = '#' || (special && c = '\\')

/-- The user information, if there is any, and the rest of an authority. -/
def splitUser (authority : List Char) : Option (List Char) × List Char :=
  let rest := (authority.reverse.takeWhile (· ≠ '@')).reverse
  if rest.length = authority.length then (none, authority)
  else (some (authority.take (authority.length - rest.length - 1)), rest)

/-- The text of a host, and what stands after it: from the first colon that is in no brackets on. -/
def splitHost : (bracketed : Bool) → List Char → List Char × List Char
  | _, [] => ([], [])
  | bracketed, c :: rest =>
    if c = ':' ∧ ¬bracketed then ([], c :: rest)
    else
      let r := splitHost (if c = '[' then true else if c = ']' then false else bracketed) rest
      (c :: r.1, r.2)

/-- The port with these digits after those that make up `value`. -/
def portFrom (value : Nat) : List Char → Except UrlFault Nat
  | [] => .ok value
  | c :: rest =>
    if c.isDigit then
      let value := value * 10 + (c.toNat - '0'.toNat)
      if value < UInt16.size then portFrom value rest else .error .port
    else .error .port

/-- The port after a host, if digits stand there. -/
def port (s : List Char) : Except UrlFault (Option UInt16) :=
  match s with
  | ':' :: c :: digits => do return some (UInt16.ofNat (← portFrom 0 (c :: digits)))
  | _ => .ok none

/-! ## Special URLs -/

/-- The path and the query of a special URL, from the end of the authority on. -/
def pathAndQuery (s : List Char) : List Char × Option (List Char) :=
  let s := s.takeWhile (· ≠ '#')
  let raw := s.takeWhile (· ≠ '?')
  let isSlash (c : Char) : Bool := c = '/' || c = '\\'
  let raw := match raw with
    | c :: rest => if isSlash c then rest else raw
    | [] => []
  let segments := (Text.pieces isSlash raw).map (Percent.encode Path.special)
  let query := match s.dropWhile (· ≠ '?') with
    | _ :: q => some (Percent.encode Path.specialInQuery q)
    | [] => none
  (Path.ofSegments [] segments, query)

/-- The URL after a special scheme and its slashes. -/
def special (s : List Char) : Except UrlFault Location := do
  let (_, site) := splitUser (s.takeWhile (!endsAuthority true ·))
  let (name, after) := splitHost false site
  if name = [] then .error .emptyHost
  else
    let host ← Host.parse name
    let port ← port after
    let (path, query) := pathAndQuery (s.dropWhile (!endsAuthority true ·))
    return ⟨host, if port = some impliedPort then none else port, path, query⟩

/-! ## Foreign URLs -/

/-- The user information names a user or a password. -/
def namesUser (user : List Char) : Bool := user ≠ [] && user ≠ [':']

/-- What follows the two slashes of a URL without a special scheme. -/
def checkAuthority (s : List Char) : Except UrlFault Unit := do
  let authority := s.takeWhile (!endsAuthority false ·)
  let (user, site) := splitUser authority
  if user = some [] ∧ site = [] ∧ authority.length < s.length then .error .emptyHost
  else
    let (name, after) := splitHost false site
    Host.checkOpaque name
    if name = [] ∧ after ≠ [] then .error .emptyHost
    else
      let _ ← port (after.takeWhile (· ≠ '\\'))
      if name = [] ∧ (user.map namesUser).getD false then .error .emptyHost else .ok ()

/-- What follows the scheme of a file URL. Only two slashes lead to a host. -/
def checkFile (s : List Char) : Except UrlFault Unit :=
  let isSlash (c : Char) : Bool := c = '/' || c = '\\'
  match s with
  | a :: b :: rest =>
    let name := rest.takeWhile (!endsAuthority true ·)
    if isSlash a ∧ isSlash b ∧ name ≠ [] ∧ ¬Path.isDriveLetter name then
      (fun _ ↦ ()) <$> Host.parse name
    else .ok ()
  | _ => .ok ()

/-! ## Reading -/

def parse (text : List Char) : Except UrlFault Url := do
  match scheme? (clean text) with
  | none => .error .relativeWithoutBase
  | some (scheme, rest) =>
    match SchemeKind.of scheme with
    | .special =>
      let location ← special (rest.dropWhile fun c ↦ c = '/' || c = '\\')
      return if scheme = "ws".toList then ws location else foreign scheme
    | .file =>
      checkFile rest
      return foreign scheme
    | .other =>
      match rest with
      | '/' :: '/' :: rest => checkAuthority rest
      | _ => .ok ()
      return foreign scheme

end Url

end Lockstep
