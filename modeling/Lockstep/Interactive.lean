import Lockstep.Endpoint
import Lockstep.Network
import Lockstep.Text.Blank
import Lockstep.Time.Timeouts

/-!
# Interactive sessions

Typed lines sent as they come, each after the response to the one before it is shown. A session ends
at a quit word, at the end of the input, or at the first fault.
-/

namespace Lockstep

structure Interactive where
  endpoint : Endpoint
  timeouts : Timeouts
deriving DecidableEq, Repr

namespace Interactive

/-! ## Lines -/

def lineEnd : UInt8 := 0x0A

/-- The lines of an input, each with its end. The last one may have none. -/
def lines : List UInt8 → List (List UInt8)
  | [] => []
  | b :: rest =>
    if b = lineEnd then [b] :: lines rest
    else match lines rest with
      | line :: more => (b :: line) :: more
      | [] => [[b]]

@[simp] theorem flatten_lines (input : List UInt8) : (lines input).flatten = input := by
  fun_induction lines input <;> simp_all

/-- The words that end a session. -/
def quitWords : List String := ["quit", "exit", "q"]

/-- The text is a quit word, in capitals or not. No letter but an ASCII capital has a letter of
these words as its small one. -/
def isQuit (s : List Char) : Bool := quitWords.contains (String.ofList (s.map Char.toLower))

/-! ## What is shown -/

def banner : String := "Connected! Type messages to send, 'quit' to exit.\n\n"

def prompt : String := "You: "

def farewell : String := "Closing connection...\n"

/-- A response as it is shown: text as it is, octets by their display. -/
def shown : Payload → String
  | .text s => s
  | p => p.display

def responseLine (p : Payload) : String := s!"Server: {shown p}\n\n"

/-! ## The session -/

/-- What lines of an input leave behind. -/
structure Talk where
  printed : String
  /-- The number of responses, or the fault that ended the session. -/
  result : Except Fault Nat
  connection : Connection

/-- The fault of a line that is not UTF-8. -/
def malformedLine (e : Utf8.Malformed) : Fault := .io ⟨.invalidData, some e.message⟩

/-- The prompt is shown and the session ends. -/
def Talk.stop (result : Except Fault Nat) (c : Connection) : Talk := ⟨prompt, result, c⟩

/-- Talks line by line, after `count` responses. -/
def talk (limit : Option Span) : (count : Nat) → List (List UInt8) → Connection → Except Halt Talk
  | count, [], c => .ok (.stop (.ok count) c)
  | count, line :: rest, c =>
    match Utf8.decode line with
    | .error e => .ok (.stop (.error (malformedLine e)) c)
    | .ok s =>
      let text := Blank.trim s
      if isQuit text then .ok ⟨prompt ++ farewell, .ok count, c⟩
      else
        let w := c.send (.text (String.ofList text))
        match w.fault with
        | some cause => .ok (.stop (.error (.socket cause)) w.connection)
        | none => do
          let r ← w.connection.receive limit
          match r.result with
          | .error cause => return .stop (.error cause) r.connection
          | .ok p =>
            let later ← talk limit (count + 1) rest r.connection
            return { later with printed := prompt ++ responseLine p ++ later.printed }

/-- What a session leaves behind. -/
structure Transcript where
  output : String
  /-- The number of responses, or the fault that ended the session. -/
  result : Except Fault Nat
  traffic : List Traffic
  /-- A request was sent. -/
  requested : Bool

/-- Talks to the endpoint. The session has no limit as a whole. -/
def run (s : Interactive) (input : List UInt8) (network : Network) (now : Nat) :
    Except Halt Transcript := do
  let opening ← network.connect 0 s.endpoint.uri s.timeouts.connect now
  match opening.result with
  | .error cause => return ⟨"", .error cause, [], opening.requested⟩
  | .ok c =>
    let t ← talk s.timeouts.response 0 (lines input) c
    return ⟨banner ++ t.printed, t.result, t.connection.traffic, opening.requested⟩

end Interactive

end Lockstep
