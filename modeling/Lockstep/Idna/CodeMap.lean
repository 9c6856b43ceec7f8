import Lockstep.Text.Runs

/-!
# Tables of code point replacements

What a mapping does with each code point is written as runs in ascending order: the length of a run
in base 32 (digits `0` to `9` and `a` to `v`), then a letter: `V` keeps the code point, `I` drops
it, `X` refuses it, and `M` replaces it. Before an `M` stand a colon and the code points of the
replacement in base 32, with full stops between them. Code points beyond the last run are kept.
-/

namespace Lockstep

/-- What a mapping does with a code point. -/
inductive CodeAction where
  | keep
  | drop
  | refuse
  | replace (codes : List Char)
deriving DecidableEq, Repr

/-- A mapping by runs: the run with action `actions[i]` begins at `starts[i]` and ends before
`starts[i + 1]`. -/
structure CodeMap where
  starts : Array Nat
  actions : Array CodeAction

namespace CodeMap

/-- A table being read: the runs that are complete, and the run that is not. -/
structure Reader where
  done : CodeMap
  start : Nat
  length : Option Nat
  codes : List Char
  number : Nat

def Reader.empty : Reader := ⟨⟨#[], #[]⟩, 0, none, [], 0⟩

/-- Completes the run being read. -/
def Reader.close (r : Reader) (action : CodeAction) : Reader :=
  let length := r.length.getD r.number
  ⟨⟨r.done.starts.push r.start, r.done.actions.push action⟩, r.start + length, none, [], 0⟩

def Reader.step (r : Reader) (c : Char) : Reader :=
  match Runs.lengthDigit? c with
  | some d => { r with number := r.number * 32 + d }
  | none =>
    let codes := Char.ofNat r.number :: r.codes
    match c with
    | ':' => { r with length := some r.number, number := 0 }
    | '.' => { r with codes, number := 0 }
    | 'M' => r.close (.replace codes.reverse)
    | 'I' => r.close .drop
    | 'X' => r.close .refuse
    | _ => r.close .keep

/-- Reads the written form of a table, broken into lines anywhere. -/
def ofLines (lines : List String) : CodeMap :=
  let r := lines.foldl (fun r line ↦ line.foldl Reader.step r) Reader.empty
  ⟨r.done.starts.push r.start, r.done.actions.push .keep⟩

/-- What the mapping does with `c`. -/
def get (m : CodeMap) (c : Char) : CodeAction :=
  m.actions[Runs.search m.starts c.toNat 0 m.starts.size]?.getD .keep

end CodeMap

end Lockstep
