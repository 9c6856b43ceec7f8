/-!
# Punycode

A text as ASCII. The ASCII characters come first, in order; then, for each of the others in
ascending order, and from left to right among equal ones, the place where it is inserted. The
place and the character together are a number that grows from one insertion to the next, and what
is written is the difference, in digits of base 36 whose thresholds adapt to the differences before.
-/

namespace Lockstep.Punycode

/-! ## Insertions -/

/-- A character and the place at which it is put into a text. -/
structure Insertion where
  place : Nat
  char : Char
deriving DecidableEq, Repr

/-- The last of the greatest characters that are not ASCII. -/
def lastGreatest : List Char → Option Insertion
  | [] => none
  | c :: rest =>
    match lastGreatest rest with
    | some x => some (if c ≤ x.char then ⟨x.place + 1, x.char⟩ else ⟨0, c⟩)
    | none => if c.toNat < 0x80 then none else some ⟨0, c⟩

theorem getElem?_lastGreatest {s : List Char} {x : Insertion} (h : lastGreatest s = some x) :
    s[x.place]? = some x.char := by
  induction s generalizing x with
  | nil => simp [lastGreatest] at h
  | cons c rest ih =>
    unfold lastGreatest at h
    split at h
    · next y hy =>
      cases h
      split
      · simpa using ih hy
      · simp
    · split at h
      · simp at h
      · cases h; simp

theorem place_lt_length {s : List Char} {x : Insertion} (h : lastGreatest s = some x) :
    x.place < s.length :=
  (List.getElem?_eq_some_iff.mp (getElem?_lastGreatest h)).1

/-- The ASCII characters of a text, and the insertions that add the others, in ascending order. -/
def insertions (s : List Char) : List Char × List Insertion :=
  match _h : lastGreatest s with
  | none => (s, [])
  | some x =>
    let r := insertions (s.eraseIdx x.place)
    (r.1, r.2 ++ [x])
termination_by s.length
decreasing_by
  have := place_lt_length ‹_›
  rw [List.length_eraseIdx_of_lt this]
  omega

/-! ## Numbers in digits with thresholds -/

def digitChar (d : Nat) : Char :=
  if d < 26 then Char.ofNat ('a'.toNat + d) else Char.ofNat ('0'.toNat + (d - 26))

def digit? (c : Char) : Option Nat :=
  if c.isLower then some (c.toNat - 'a'.toNat)
  else if c.isUpper then some (c.toNat - 'A'.toNat)
  else if c.isDigit then some (c.toNat - '0'.toNat + 26)
  else none

/-- The threshold at weight `k`: a digit below it is the last of its number. -/
def threshold (bias k : Nat) : Nat := min 26 (max 1 (k - bias))

theorem one_le_threshold (bias k : Nat) : 1 ≤ threshold bias k := by unfold threshold; omega

theorem threshold_le (bias k : Nat) : threshold bias k ≤ 26 := by unfold threshold; omega

/-- The digits of `n` from weight `k` on. -/
def writeNumber (bias k n : Nat) : List Char :=
  let t := threshold bias k
  if n < t then [digitChar n]
  else digitChar (t + (n - t) % (36 - t)) :: writeNumber bias (k + 36) ((n - t) / (36 - t))
termination_by n
decreasing_by
  have := one_le_threshold bias k
  exact Nat.lt_of_le_of_lt (Nat.div_le_self _ _) (by omega)

/-- Adds to `sum` the number at the front of `s`, whose next digit has weight `k` and counts
`factor`; and what stands after the number. -/
def readNumber? (bias : Nat) : (k factor sum : Nat) → (s : List Char) → Option (Nat × List Char)
  | _, _, _, [] => none
  | k, factor, sum, c :: rest => do
    let d ← digit? c
    let t := threshold bias k
    if d < t then return (sum + d * factor, rest)
    else readNumber? bias (k + 36) (factor * (36 - t)) (sum + d * factor) rest

theorem length_of_readNumber? {bias k factor sum : Nat} {s : List Char} {r : Nat × List Char}
    (h : readNumber? bias k factor sum s = some r) : r.2.length < s.length := by
  induction s generalizing k factor sum with
  | nil => simp [readNumber?] at h
  | cons c rest ih =>
    simp only [readNumber?, Option.bind_eq_bind, Option.bind_eq_some_iff] at h
    obtain ⟨d, -, h⟩ := h
    split at h
    · cases h; simp
    · have := ih h; simp only [List.length_cons]; omega

/-! ## Differences -/

/-- Divides by 35 until 455 or less is left, and counts 36 for each division. -/
def settle (n count : Nat) : Nat × Nat :=
  if 455 < n then settle (n / 35) (count + 36) else (n, count)
termination_by n

/-- The bias after a difference, of a text that is `length` characters long by then. -/
def adapt (difference length : Nat) (first : Bool) : Nat :=
  let n := if first then difference / 700 else difference / 2
  let r := settle (n + n / length) 0
  r.2 + 36 * r.1 / (r.1 + 38)

/-- Where a text that is being written or read stands. -/
structure Progress where
  /-- The length of the text before the next insertion. -/
  length : Nat
  /-- The least code point that may be inserted next. -/
  code : Nat
  /-- The least place where that code point may be inserted. -/
  place : Nat
  bias : Nat
  first : Bool

namespace Progress

def start (length : Nat) : Progress := ⟨length, 0x80, 0, 72, true⟩

/-- The difference that leads to an insertion. -/
def difference (p : Progress) (x : Insertion) : Nat :=
  (x.char.toNat - p.code) * (p.length + 1) + x.place - p.place

/-- The code point and the place to which a difference leads. -/
def locate (p : Progress) (difference : Nat) : Nat × Nat :=
  let n := p.place + difference
  (p.code + n / (p.length + 1), n % (p.length + 1))

def next (p : Progress) (difference code place : Nat) : Progress :=
  ⟨p.length + 1, code, place + 1, adapt difference (p.length + 1) p.first, false⟩

end Progress

/-! ## Writing -/

def writeInsertions : Progress → List Insertion → List Char
  | _, [] => []
  | p, x :: rest =>
    let d := p.difference x
    writeNumber p.bias 36 d ++ writeInsertions (p.next d x.char.toNat x.place) rest

def encode (s : List Char) : List Char :=
  let (basic, added) := insertions s
  (if basic.isEmpty then [] else basic ++ ['-']) ++
    writeInsertions (.start basic.length) added

/-! ## Reading -/

def readInsertions? (p : Progress) (text s : List Char) : Option (List Char) :=
  match s with
  | [] => some text
  | c :: rest =>
    match _h : readNumber? p.bias 36 1 0 (c :: rest) with
    | none => none
    | some (d, after) =>
      let (code, place) := p.locate d
      if code.isValidChar then
        readInsertions? (p.next d code place) (text.insertIdx place (Char.ofNat code)) after
      else none
termination_by s.length
decreasing_by exact length_of_readNumber? ‹_›

/-- What stands before the last hyphen, and what stands after it. Without a hyphen, or with none
but the first character, nothing stands before. -/
def splitLast (s : List Char) : List Char × List Char :=
  let tail := (s.reverse.takeWhile (· ≠ '-')).reverse
  let head := s.take (s.length - tail.length)
  if head.length ≤ 1 then ([], s) else (head.dropLast, tail)

def decode? (s : List Char) : Option (List Char) :=
  let (basic, tail) := splitLast s
  readInsertions? (.start basic.length) basic tail

end Lockstep.Punycode
