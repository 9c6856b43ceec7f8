import Lockstep.Payload

/-!
# Messages

What travels over an open connection: payloads in data frames, and control frames.
-/

namespace Lockstep

/-- The status code and the reason that a close frame may carry. -/
structure CloseReason where
  code : UInt16
  text : String
deriving DecidableEq, Repr

inductive Message where
  | data (payload : Payload)
  | ping (octets : List UInt8)
  | pong (octets : List UInt8)
  | close (reason : Option CloseReason)
deriving DecidableEq, Repr

namespace Message

/-- The payload of a data frame; a control frame has none. -/
def payload? : Message → Option Payload
  | data p => some p
  | _ => none

@[simp] theorem payload?_data (p : Payload) : (data p).payload? = some p := rfl
@[simp] theorem payload?_ping (b : List UInt8) : (ping b).payload? = none := rfl
@[simp] theorem payload?_pong (b : List UInt8) : (pong b).payload? = none := rfl
@[simp] theorem payload?_close (r : Option CloseReason) : (close r).payload? = none := rfl

end Message

end Lockstep
