import Lockstep.Payload
import Lockstep.Text.Utf8

/-!
# Response transforms

How a route answers a data frame: with the frame itself, with a literal before it, or with a
template in which it takes the place of every `{}`. The answer has the kind of the frame. Templates
are texts, so a template reads octets as UTF-8 before it places them, and a malformed piece
becomes U+FFFD.
-/

namespace Lockstep

inductive Transform where
  | identity
  | before (literal : String)
  | template (pattern : String)
deriving DecidableEq, Repr

namespace Transform

instance : Inhabited Transform := ⟨identity⟩

/-- `pattern` with `filling` in the place of every `{}`, from left to right. -/
def fill (filling : List Char) : (pattern : List Char) → List Char
  | '{' :: '}' :: rest => filling ++ fill filling rest
  | c :: rest => c :: fill filling rest
  | [] => []

/-- The answer to a data frame. -/
def apply : Transform → Payload → Payload
  | identity, p => p
  | before l, .text s => .text (l ++ s)
  | before l, .binary b => .binary (Utf8.encode l.toList ++ b)
  | template t, .text s => .text (String.ofList (fill s.toList t.toList))
  | template t, .binary b => .binary (Utf8.encode (fill (Utf8.lossy b) t.toList))

end Transform

end Lockstep
