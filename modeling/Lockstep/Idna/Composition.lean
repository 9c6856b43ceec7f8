import Lockstep.Idna.Decomposition

/-!
# Normal form C

A text is decomposed, its marks are put in the order of their classes, and what composes is
composed. A text of ASCII characters is its own normal form.
-/

namespace Lockstep.Idna

/-! ## Hangul syllables -/

namespace Hangul

def syllables : Nat := 0xAC00
def leads : Nat := 0x1100
def vowels : Nat := 0x1161
/-- One before the first trailing consonant. -/
def trails : Nat := 0x11A7

/-- The letters of a syllable. -/
def decompose? (c : Char) : Option (List Char) :=
  let n := c.toNat - syllables
  if syllables ≤ c.toNat ∧ n < 19 * 21 * 28 then
    let lead := Char.ofNat (leads + n / (21 * 28))
    let vowel := Char.ofNat (vowels + n / 28 % 21)
    if n % 28 = 0 then some [lead, vowel]
    else some [lead, vowel, Char.ofNat (trails + n % 28)]
  else none

/-- A lead and a vowel compose, and so do a syllable without a trailing consonant and one. -/
def compose? (a b : Char) : Option Char :=
  let l := a.toNat - leads
  let v := b.toNat - vowels
  let s := a.toNat - syllables
  let t := b.toNat - trails
  if leads ≤ a.toNat ∧ l < 19 ∧ vowels ≤ b.toNat ∧ v < 21 then
    some (Char.ofNat (syllables + (l * 21 + v) * 28))
  else if syllables ≤ a.toNat ∧ s < 19 * 21 * 28 ∧ s % 28 = 0 ∧ 0 < t ∧ t < 28 then
    some (Char.ofNat (a.toNat + t))
  else none

end Hangul

/-! ## Decomposition -/

def decomposeChar (c : Char) : List Char :=
  match Hangul.decompose? c with
  | some cs => cs
  | none => match decompositions.get c with
    | .replace cs => cs
    | _ => [c]

/-- Puts a character after all marks of its class or a lower one at the end of `reversed`. -/
def insertMark (c : Char) : (reversed : List Char) → List Char
  | [] => [c]
  | d :: rest =>
    if combiningClass c ≠ 0 ∧ combiningClass c < combiningClass d then d :: insertMark c rest
    else c :: d :: rest

/-- The decomposed text, its marks in the order of their classes. -/
def decompose (s : List Char) : List Char :=
  ((s.flatMap decomposeChar).foldl (fun reversed c ↦ insertMark c reversed) []).reverse

/-! ## Composition -/

def compose? (a b : Char) : Option Char :=
  match Hangul.compose? a b with
  | some c => some c
  | none => do
    let i ← compositions.actions.findIdx? (· = .replace [a, b])
    return Char.ofNat (compositions.starts[i]?.getD 0)

/-- A text being composed. -/
structure Composer where
  /-- What is complete, the last character first. -/
  done : List Char
  /-- The character that later ones may compose with. -/
  starter : Option Char
  /-- The marks after it that did not compose, the last first. -/
  pending : List Char

namespace Composer

def flush (p : Composer) : List Char := p.pending ++ p.starter.toList ++ p.done

/-- Nothing between the starter and a character of class `k` keeps the two apart. -/
def reaches (p : Composer) (k : Nat) : Bool :=
  match p.pending with
  | [] => true
  | m :: _ => combiningClass m < k

def step (p : Composer) (c : Char) : Composer :=
  let k := combiningClass c
  match p.starter with
  | none => if k = 0 then ⟨p.flush, some c, []⟩ else { p with done := c :: p.done }
  | some s =>
    match if p.reaches k then compose? s c else none with
    | some composed => { p with starter := some composed }
    | none => if k = 0 then ⟨p.flush, some c, []⟩ else { p with pending := c :: p.pending }

end Composer

def compose (s : List Char) : List Char :=
  (s.foldl Composer.step ⟨[], none, []⟩).flush.reverse

/-- The normal form of a text. -/
def normalize (s : List Char) : List Char :=
  if s.all (·.toNat < 0x80) then s else compose (decompose s)

end Lockstep.Idna
