import Lockstep.Fault
import Lockstep.Idna.Domain
import Lockstep.Url.Ipv4
import Lockstep.Url.Ipv6
import Lockstep.Url.Percent

/-!
# Hosts
-/

namespace Lockstep

inductive Host where
  | domain (name : List Char)
  | ipv4 (address : Nat)
  | ipv6 (numbers : List Nat)
deriving DecidableEq, Repr

namespace Host

def text : Host → List Char
  | domain name => name
  | ipv4 address => Ipv4.text address
  | ipv6 numbers => '[' :: Ipv6.text numbers ++ [']']

/-- What stands between brackets, if a host begins with one. -/
def bracketed? (s : List Char) : Option (Except UrlFault (List Nat)) :=
  match s with
  | '[' :: rest =>
    some (match if rest.getLast? = some ']' then Ipv6.parse? rest.dropLast else none with
      | some ns => .ok ns
      | none => .error .ipv6)
  | _ => none

/-- A name, read as UTF-8 once its percent signs are resolved, and put in ASCII. -/
def nameText (s : List Char) : Except UrlFault (List Char) :=
  match Utf8.decode (Percent.decode (Utf8.encode s)) with
  | .error _ => .error .internationalName
  | .ok name =>
    match Idna.toAscii? name with
    | none => .error .internationalName
    | some [] => .error .emptyHost
    | some ascii => .ok ascii

/-- The host of a URL whose scheme has hosts on the internet. -/
def parse (s : List Char) : Except UrlFault Host :=
  match bracketed? s with
  | some r => ipv6 <$> r
  | none => do
    let name ← nameText s
    if Ipv4.isNumeric name then
      match Ipv4.parse? name with
      | some a => return ipv4 a
      | none => .error .ipv4
    else return domain name

/-- What a host of another scheme may not hold. -/
def opaqueForbidden : List Char :=
  ['\x00', '\t', '\n', '\r', ' ', '#', '/', ':', '<', '>', '?', '@', '[', '\\', ']', '^', '|']

/-- A host of another scheme is checked, but not read. -/
def checkOpaque (s : List Char) : Except UrlFault Unit :=
  match bracketed? s with
  | some r => (fun _ ↦ ()) <$> r
  | none => if s.any opaqueForbidden.contains then .error .domainCharacter else .ok ()

end Host

end Lockstep
