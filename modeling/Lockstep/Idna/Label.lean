import Lockstep.Idna.Composition
import Lockstep.Idna.Mapping
import Lockstep.Idna.Properties
import Lockstep.Idna.Punycode

/-!
# Labels of domain names

A label that is not ASCII is written as `xn--` and its Punycode. What it stands for must be in its
normal form, unchanged by the mapping, begin with no mark, and hold joiners only where they join.
-/

namespace Lockstep.Idna

/-! ## Validity -/

/-- The combining class of the signs that kill an inherent vowel. -/
def viramaClass : Nat := 9

def zeroWidthNonJoiner : Char := '\u200C'

def zeroWidthJoiner : Char := '\u200D'

/-- The first character that is not transparent joins in one of the given ways. -/
def joins (ways : List Joining) : List Char → Bool
  | [] => false
  | c :: rest =>
    if Joining.of c = .transparent then joins ways rest else ways.contains (Joining.of c)

/-- Each joiner stands after a virama, or, if it keeps letters apart, between letters that would
join. `before` holds the characters before, the last first. -/
def joinersFit (before : List Char) : List Char → Bool
  | [] => true
  | c :: rest =>
    let afterVirama := match before with
      | d :: _ => combiningClass d = viramaClass
      | [] => false
    let fits :=
      if c = zeroWidthNonJoiner then
        afterVirama || (joins [.left, .dual] before && joins [.right, .dual] rest)
      else if c = zeroWidthJoiner then afterVirama
      else true
    fits && joinersFit (c :: before) rest

/-- A label may stand for these characters. -/
def isValid (s : List Char) : Bool :=
  s.all (action · = .keep) && normalize s = s &&
    (match s with
      | c :: _ => !isMark c
      | [] => true) &&
    joinersFit [] s

/-! ## Reading and writing -/

def isAscii (s : List Char) : Bool := s.all (·.toNat < 0x80)

/-- What marks a label as Punycode. -/
def aceStart : List Char := "xn--".toList

/-- A label in both its forms. -/
structure Label where
  /-- The characters that the label stands for. -/
  meaning : List Char
  /-- The label in ASCII. -/
  ascii : List Char
deriving DecidableEq, Repr

namespace Label

/-- The label that is spelled so after mapping. -/
def ofSpelling? (s : List Char) : Option Label :=
  if aceStart.isPrefixOf s then do
    let meaning ← if isAscii s then Punycode.decode? (s.drop aceStart.length) else none
    if !isAscii meaning && isValid meaning then return ⟨meaning, s⟩ else none
  else if isAscii s then some ⟨s, s⟩
  else if isValid s then some ⟨s, aceStart ++ Punycode.encode s⟩
  else none

end Label

end Lockstep.Idna
