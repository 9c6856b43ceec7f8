import Lockstep.Verdict

/-!
# Scenarios

Messages in order, each with the predicate on its response; and the three canned scenarios.
-/

namespace Lockstep

structure Step where
  payload : Payload
  predicate : Predicate
deriving DecidableEq, Repr

structure Scenario where
  name : String
  steps : List Step
deriving DecidableEq, Repr

namespace Scenario

def empty (name : String) : Scenario := ⟨name, []⟩

def length (s : Scenario) : Nat := s.steps.length

def isEmpty (s : Scenario) : Bool := s.steps.isEmpty

/-- Adds a message at the end. -/
def push (s : Scenario) (payload : Payload) (predicate : Predicate) : Scenario :=
  { s with steps := s.steps ++ [⟨payload, predicate⟩] }

@[simp] theorem steps_push (s : Scenario) (p : Payload) (q : Predicate) :
    (s.push p q).steps = s.steps ++ [⟨p, q⟩] := rfl

@[simp] theorem length_push (s : Scenario) (p : Payload) (q : Predicate) :
    (s.push p q).length = s.length + 1 := by simp [length]

/-- Adds a message that must come back as it is. -/
def pushEcho (s : Scenario) (payload : Payload) : Scenario := s.push payload (.exact payload)

/-- Adds a text that must come back transformed. -/
def pushText (s : Scenario) (t : Transform) (text : String) : Scenario :=
  s.push (.text text) (.transformed t)

/-- Adds octets that must come back transformed. -/
def pushBinary (s : Scenario) (t : Transform) (octets : List UInt8) : Scenario :=
  s.push (.binary octets) (.transformed t)

/-! ## Canned scenarios -/

def echoGreeting : String := "Hello, WebSocket Echo Server!"

def binarySample : List UInt8 := Utf8.encode "Binary test data ".toList ++ [0, 1, 2, 3]

def chatMessages : List String := ["Hello!", "How are you?", "This is a test message"]

/-- A greeting, octets that are no text, and three numbered messages. -/
def echo (t : Transform) : Scenario :=
  let start := (empty "echo").pushText t echoGreeting |>.pushBinary t binarySample
  [1, 2, 3].foldl (fun s i ↦ s.pushText t s!"Message #{i}") start

def chat (t : Transform) : Scenario :=
  chatMessages.foldl (fun s text ↦ s.pushText t text) (empty "chat")

/-- The letters and digits from which fillers are drawn. -/
def alphabet : List Char :=
  "ABCDEFGHIJKLMNOPQRSTUVWXYZabcdefghijklmnopqrstuvwxyz0123456789".toList

/-- A source of letters and digits: for each message and each position in it, which one. -/
abbrev Draw := Nat → Nat → Fin 62

/-- The letters and digits drawn for message `i`. -/
def filler (draw : Draw) (size i : Nat) : String :=
  String.ofList ((List.range size).map fun j ↦ alphabet.getD (draw i j).val 'A')

/-- The text of message `i`: its number, which no other message of the burst has, and a filler. -/
def burstText (draw : Draw) (size i : Nat) : String := s!"{i}:" ++ filler draw size i

/-- `count` texts, each of them numbered and filled up with `size` letters and digits. -/
def burst (draw : Draw) (count size : Nat) (t : Transform) : Scenario :=
  ⟨"burst", (List.range count).map fun i ↦ ⟨.text (burstText draw size i), .transformed t⟩⟩

end Scenario

end Lockstep
