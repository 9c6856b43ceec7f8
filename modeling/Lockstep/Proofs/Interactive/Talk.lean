import Lockstep.Interactive
import Lockstep.Proofs.Session.Settled

/-!
# Typed lines as messages

An interactive session exchanges the typed texts as messages, each after the response to the one
before it. The texts are those of the lines before the first quit word, the first line that is not
UTF-8, or the end of the input. What a session shows and what it results in follow from what passes
in this exchange and from what stands behind the texts.
-/

namespace Lockstep.Interactive

/-! ## Lines -/

/-- A line ends with the first line end. -/
theorem lines_append {line : List UInt8} (h : lineEnd ∉ line) (rest : List UInt8) :
    lines (line ++ lineEnd :: rest) = (line ++ [lineEnd]) :: lines rest := by
  induction line with
  | nil => exact if_pos rfl
  | cons b line ih =>
    obtain ⟨hb, hline⟩ := List.ne_and_not_mem_of_not_mem_cons h
    rw [List.cons_append, lines, if_neg (Ne.symm hb), ih hline]
    rfl

/-- Octets without a line end are a line if there are any. -/
theorem lines_of_not_mem {line : List UInt8} (hne : line ≠ []) (h : lineEnd ∉ line) :
    lines line = [line] := by
  induction line with
  | nil => exact absurd rfl hne
  | cons b line ih =>
    obtain ⟨hb, hline⟩ := List.ne_and_not_mem_of_not_mem_cons h
    rw [lines, if_neg (Ne.symm hb)]
    cases line with
    | nil => rfl
    | cons b' line => rw [ih (List.cons_ne_nil _ _) hline]

/-- What stands behind the texts of an input. -/
inductive Finish where
  | exhausted
  | quit
  | malformed (e : Utf8.Malformed)
deriving DecidableEq, Repr

/-- The texts of the lines before the first one that is a quit word or not UTF-8, each without the
white space at its ends. -/
def texts : List (List UInt8) → List String
  | [] => []
  | line :: rest =>
    match Utf8.decode line with
    | .error _ => []
    | .ok s => if isQuit (Blank.trim s) then [] else String.ofList (Blank.trim s) :: texts rest

def finish : List (List UInt8) → Finish
  | [] => .exhausted
  | line :: rest =>
    match Utf8.decode line with
    | .error e => .malformed e
    | .ok s => if isQuit (Blank.trim s) then .quit else finish rest

/-! ## The exchange of the texts -/

/-- The texts as a scenario. What it looks for makes no difference to what passes. -/
def scenario (texts : List String) : Scenario :=
  ⟨"typed", texts.map fun text ↦ ⟨.text text, .transformed .identity⟩⟩

theorem payloads_scenario (texts : List String) :
    (scenario texts).payloads = texts.map .text := List.map_map ..

/-- What is shown of the texts that are answered so. -/
def dialogue : List Payload → String
  | [] => ""
  | p :: rest => prompt ++ responseLine p ++ dialogue rest

/-- What is shown last. -/
def closing : Finish → Option Fault → String
  | .quit, none => prompt ++ farewell
  | _, _ => prompt

/-- The result of a session with `count` responses. -/
def conclusion (count : Nat) : Finish → Option Fault → Except Fault Nat
  | _, some cause => .error cause
  | .malformed e, none => .error (malformedLine e)
  | _, none => .ok count

/-- A session that goes on from the connection `c`, after `count` responses, tells of an exchange of
its texts. -/
structure Tells (fin : Finish) (count : Nat) (c : Connection) (x : Session.Exchange) (t : Talk) :
    Prop where
  connection : t.connection = x.connection
  told : ∃ traffic, x.connection.traffic = c.traffic ++ traffic ∧
    t.printed = dialogue (Traffic.responses traffic) ++ closing fin x.fault ∧
    t.result = conclusion (count + (Traffic.responses traffic).length) fin x.fault

variable {fin : Finish} {count : Nat} {c : Connection} {limit : Option Span}

/-- Nothing is left to exchange. -/
theorem tells_done : Tells fin count c (.done c) ⟨closing fin none, conclusion count fin none, c⟩
    where
  connection := rfl
  told := ⟨[], (List.append_nil _).symm, (String.empty_append ..).symm, rfl⟩

/-- A text could not be written. -/
theorem tells_unwritten {w : Connection} {index : Nat} {cause : SocketFault} {rest : List Step}
    (h : w.traffic = c.traffic ++ [.unsent cause]) :
    Tells fin count c (.unwritten index (.socket cause) rest w)
      (.stop (.error (.socket cause)) w) where
  connection := rfl
  told := ⟨_, h, by cases fin <;> exact (String.empty_append ..).symm, rfl⟩

/-- A text has no response. -/
theorem tells_unheard {w : Connection} {index : Nat} {q : Payload} {cause : Fault}
    {rest : List Step} (h : w.traffic = c.traffic ++ [.sent q, .unheard cause]) :
    Tells fin count c (.unheard index cause rest w) (.stop (.error cause) w) where
  connection := rfl
  told := ⟨_, h, by cases fin <;> exact (String.empty_append ..).symm, rfl⟩

/-- A text has its response, and the rest is told. -/
theorem Tells.answered {c' : Connection} {x : Session.Exchange} {t : Talk} {index took : Nat}
    {q p : Payload} {verdict : Verdict} (h : Tells fin (count + 1) c' x t)
    (hc : c'.traffic = c.traffic ++ [.sent q, .received p]) :
    Tells fin count c (.answered index verdict took x)
      { t with printed := prompt ++ responseLine p ++ t.printed } where
  connection := h.connection
  told := by
    obtain ⟨traffic, htraffic, hprinted, hresult⟩ := h.told
    refine ⟨.sent q :: .received p :: traffic, ?_, ?_, ?_⟩
    · change x.connection.traffic = _
      rw [htraffic, hc, List.append_assoc]
      rfl
    · change prompt ++ responseLine p ++ t.printed = _
      rw [hprinted, ← String.append_assoc]
      rfl
    · change t.result = _
      rw [hresult, Nat.add_assoc, Nat.add_comm 1]
      rfl

/-- A session tells of each exchange of its texts, whatever is looked for, or neither of the two
has an end. -/
theorem talk_tells {lines : List (List UInt8)} {steps : List Step}
    (hsteps : steps.map Step.payload = (texts lines).map .text) (limit : Option Span)
    (index count : Nat) (c : Connection) :
    Halt.Alike (Tells (finish lines) count c) (fun _ ↦ False)
      (Session.exchange limit none index steps c) (talk limit count lines c) := by
  induction lines generalizing steps index count c with
  | nil =>
    obtain rfl := List.map_eq_nil_iff.mp hsteps
    exact .ok tells_done
  | cons line rest ih =>
    rw [texts] at hsteps
    rw [talk, finish]
    cases hline : Utf8.decode line with
    | error e =>
      rw [hline] at hsteps
      obtain rfl := List.map_eq_nil_iff.mp hsteps
      exact .ok tells_done
    | ok s =>
      rw [hline] at hsteps
      dsimp only at hsteps ⊢
      split at hsteps
      · rename_i hquit
        obtain rfl := List.map_eq_nil_iff.mp hsteps
        rw [if_pos hquit, if_pos hquit]
        exact .ok tells_done
      · rename_i hquit
        obtain ⟨step, steps, rfl, hpayload, hsteps⟩ := List.map_eq_cons_iff.mp hsteps
        rw [if_neg hquit, if_neg hquit, Session.exchange, hpayload]
        obtain ⟨-, hsend⟩ := c.send_cases (.text (String.ofList (Blank.trim s)))
        cases hf : (c.send (.text (String.ofList (Blank.trim s)))).fault with
        | some cause =>
          rcases hsend with ⟨cause', -, hc, ht, -⟩ | ⟨-, hn, -⟩
          · cases hc.symm.trans hf
            exact .ok (tells_unwritten ht)
          · cases hn.symm.trans hf
        | none =>
          rcases hsend with ⟨cause', -, hc, -⟩ | ⟨-, -, ht, -⟩
          · cases hc.symm.trans hf
          dsimp only
          rw [budget_none]
          cases hr : (c.send (.text (String.ofList (Blank.trim s)))).connection.receive limit with
          | error halt => exact .error halt
          | ok r =>
            obtain ⟨-, hrt, -⟩ := Connection.receive_cases hr
            rw [ht, List.append_assoc] at hrt
            rw [Halt.ok_bind, Halt.ok_bind]
            cases hp : r.result with
            | error cause =>
              rw [hp] at hrt
              exact .ok (tells_unheard hrt)
            | ok p =>
              rw [hp] at hrt
              refine (ih hsteps (index + 1) (count + 1) r.connection).bind ?_ fun _ he ↦ he.elim
              intro x t hx
              exact .ok (hx.answered hrt)

end Lockstep.Interactive
