import Lockstep.Idna.Label
import Lockstep.Text.Pieces

/-!
# Domain names in ASCII

The name is mapped and normalized, and each of its labels is put in ASCII. A name that holds
letters written from right to left must keep the rule for them in all its labels.
-/

namespace Lockstep.Idna

/-! ## The rule for names of both directions -/

/-- A name with such a character is subject to the rule. No ASCII character is one. -/
def isRightToLeft (c : Char) : Bool :=
  0x80 ≤ c.toNat && [.rightToLeft, .arabicLetter, .arabicNumber].contains (Direction.of c)

/-- A label begins with a letter, keeps to the direction of it, and ends with a letter or a number
of that direction, marks after it aside. -/
def keepsDirection (label : List Char) : Bool :=
  let classes := label.map Direction.of
  let last := (classes.reverse.dropWhile (· = .mark)).headD .other
  let common : List Direction :=
    [.europeanNumber, .separator, .commonSeparator, .terminator, .neutral, .boundary, .mark]
  match classes with
  | [] => true
  | .leftToRight :: _ =>
    classes.all (fun d ↦ d = .leftToRight || common.contains d) &&
      [.leftToRight, .europeanNumber].contains last
  | .rightToLeft :: _ | .arabicLetter :: _ =>
    let own : List Direction := [.rightToLeft, .arabicLetter, .arabicNumber]
    classes.all (fun d ↦ own.contains d || common.contains d) &&
      (own.contains last || last = .europeanNumber) &&
      !(classes.contains .europeanNumber && classes.contains .arabicNumber)
  | _ => false

/-! ## Names -/

/-- A domain name in a URL holds no such character: controls and the space, and what separates the
parts of a URL. -/
def isForbidden (c : Char) : Bool :=
  c.toNat ≤ 0x20 || c.toNat = 0x7F || "%#/:<>?@[\\]^|".toList.contains c

/-- The name in ASCII, if it is one. What mapping and normalization leave must be kept by the
mapping, in all labels. -/
def toAscii? (name : List Char) : Option (List Char) := do
  let spelled := normalize (← mapText? name)
  if spelled.any fun c ↦ isForbidden c || action c ≠ .keep then none
  else
    let labels ← (Text.pieces (· = '.') spelled).mapM Label.ofSpelling?
    let meanings := labels.map Label.meaning
    if meanings.any (·.any isRightToLeft) && !meanings.all keepsDirection then none
    else return Text.join '.' (labels.map Label.ascii)

end Lockstep.Idna
