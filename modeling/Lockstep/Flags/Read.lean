import Lockstep.Flags
import Lockstep.Number.Digits

/-!
# Reading a command line

A flag has a long name after two hyphens, and some have a letter after one. The value of a flag is
the next word, or is attached to it. A flag may be given once. Faults count in the order in which
they are met, and a flag whose value is the next word is settled only when the word after that one
is understood.
-/

namespace Lockstep

/-- The flags by name. -/
inductive Flag where
  | url
  | host
  | port
  | path
  | echoPrefix
  | echoTemplate
  | chatPath
  | chatPrefix
  | chatTemplate
  | multi
  | connections
  | messages
  | messageSize
  | timeoutMs
  | attemptTimeoutMs
  | interactive
  | serve
  | help
  | version
deriving DecidableEq, Repr

/-- How many values a flag takes. -/
inductive Arity where
  | switch
  | value
  /-- Without a value it has the given one. -/
  | optional (otherwise : String)
deriving DecidableEq, Repr

/-- Why a command line is not run. -/
inductive UsageFault where
  /-- The flags are to be explained. -/
  | help
  /-- The version is to be shown. -/
  | version
  /-- A word is no flag and no value of one. -/
  | unknown
  | missingValue
  | malformedValue
  /-- A flag is given twice. -/
  | repeated
  /-- A value is attached to a flag that takes none. -/
  | unexpectedValue
deriving DecidableEq, Repr

namespace Flag

def longNames : List (String × Flag) :=
  [ ("url", url), ("host", host), ("port", port), ("path", path), ("echo-prefix", echoPrefix),
    ("echo-template", echoTemplate), ("chat-path", chatPath), ("chat-prefix", chatPrefix),
    ("chat-template", chatTemplate), ("multi", multi), ("connections", connections),
    ("messages", messages), ("message-size", messageSize), ("timeout-ms", timeoutMs),
    ("attempt-timeout-ms", attemptTimeoutMs), ("interactive", interactive), ("serve", serve),
    ("help", help), ("version", version) ]

def letters : List (Char × Flag) :=
  [ ('p', port), ('m', multi), ('c', connections), ('n', messages), ('i', interactive),
    ('h', help), ('V', version) ]

def arity : Flag → Arity
  | multi | serve | help | version => .switch
  | interactive => .optional "/"
  | _ => .value

end Flag

namespace Flags

/-! ## Values -/

/-- A number below `bound`, perhaps with a plus sign. -/
def natural (bound : Nat) (s : List Char) : Except UsageFault Nat :=
  let digits := match s with
    | '+' :: rest => rest
    | _ => s
  match Digits.read? 10 digits with
  | some n => if n < bound then .ok n else .error .malformedValue
  | none => .error .malformedValue

/-- A port. It is read as a number with a sign, so zero may have a minus. -/
def portValue (s : List Char) : Except UsageFault UInt16 :=
  match s with
  | '-' :: rest =>
    if Digits.read? 10 rest = some 0 then .ok 0 else .error .malformedValue
  | _ => UInt16.ofNat <$> natural UInt16.size s

/-- A count of 64 bits. -/
def countValue (s : List Char) : Except UsageFault Nat := natural UInt64.size s

/-- The settings with a flag set to a value. -/
def set (f : Flags) (flag : Flag) (value : String) : Except UsageFault Flags :=
  let s := value.toList
  match flag with
  | .url => .ok { f with url := some value }
  | .host => .ok { f with host := value }
  | .port => do return { f with port := ← portValue s }
  | .path => .ok { f with path := value }
  | .echoPrefix => .ok { f with echoBefore := some value }
  | .echoTemplate => .ok { f with echoTemplate := some value }
  | .chatPath => .ok { f with chatPath := value }
  | .chatPrefix => .ok { f with chatBefore := value }
  | .chatTemplate => .ok { f with chatTemplate := some value }
  | .multi => .ok { f with multi := true }
  | .connections => do return { f with connections := ← countValue s }
  | .messages => do return { f with messages := ← countValue s }
  | .messageSize => do return { f with messageSize := ← countValue s }
  | .timeoutMs => do return { f with timeoutMs := (← countValue s).toUInt64 }
  | .attemptTimeoutMs => do
    return { f with attemptTimeoutMs := some (← countValue s).toUInt64 }
  | .interactive => .ok { f with interactive := some value }
  | .serve => .ok { f with serve := true }
  | .help => .error .help
  | .version => .error .version

/-! ## Words -/

/-- A command line being read. -/
structure Reader where
  flags : Flags
  seen : List Flag
  /-- A flag whose value is to come, or has come, as a word of its own. -/
  pending : Option (Flag × Option String)

namespace Reader

def start : Reader := ⟨standard, [], none⟩

/-- Sets a flag that was not given before. -/
def give (r : Reader) (flag : Flag) (value : Option String) : Except UsageFault Reader := do
  let value ← match flag.arity, value with
    | .switch, _ => pure ""
    | _, some v => pure v
    | .optional v, none => pure v
    | .value, none => throw .missingValue
  if flag ∈ r.seen then throw .repeated
  else return ⟨← r.flags.set flag value, flag :: r.seen, none⟩

/-- Sets the pending flag. -/
def settle (r : Reader) : Except UsageFault Reader :=
  match r.pending with
  | some (flag, value) => { r with pending := none }.give flag value
  | none => .ok r

/-- Takes a flag, with its value if that is attached. -/
def take (r : Reader) (flag : Flag) (attached : Option String) : Except UsageFault Reader := do
  match flag.arity, attached with
  | .switch, some _ => throw .unexpectedValue
  | .switch, none | _, some _ => (← r.settle).give flag attached
  | _, none => return { ← r.settle with pending := some (flag, none) }

/-- A flag by its long name, what follows the first equals sign being its value. -/
def long (r : Reader) (word : List Char) : Except UsageFault Reader :=
  let name := word.takeWhile (· ≠ '=')
  let attached := match word.dropWhile (· ≠ '=') with
    | _ :: value => some (String.ofList value)
    | [] => none
  match Flag.longNames.lookup (String.ofList name) with
  | some flag => r.take flag attached
  | none => .error .unknown

/-- Flags by their letters. What follows a flag with a value is the value, an equals sign before it
aside. -/
def short (r : Reader) : List Char → Except UsageFault Reader
  | [] => .ok r
  | c :: rest =>
    match Flag.letters.lookup c with
    | none => .error .unknown
    | some flag =>
      if flag.arity = .switch then do (← r.take flag none).short rest
      else match rest with
        | [] => r.take flag none
        | '=' :: value => r.take flag (some (String.ofList value))
        | value => r.take flag (some (String.ofList value))

/-- A word that is no flag must be the value of the pending one. -/
def plain (r : Reader) (word : String) : Except UsageFault Reader :=
  match r.pending with
  | some (flag, none) => .ok { r with pending := some (flag, some word) }
  | _ => .error .unknown

/-- Two hyphens by themselves end the flags, and nothing may follow them. -/
def words (r : Reader) : List String → Except UsageFault Reader
  | [] => r.settle
  | word :: rest =>
    match word.toList with
    | ['-', '-'] => if rest.isEmpty then r.settle else .error .unknown
    | '-' :: '-' :: long => do (← r.long long).words rest
    | '-' :: c :: letters => do (← r.short (c :: letters)).words rest
    | _ => do (← r.plain word).words rest

end Reader

/-- The settings that a command line gives, the name of the program aside. -/
def read (words : List String) : Except UsageFault Flags := do
  return (← Reader.start.words words).flags

end Flags

end Lockstep
