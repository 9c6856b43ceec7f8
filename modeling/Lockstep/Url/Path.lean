import Lockstep.Url.Percent

/-!
# Paths of URLs

A path is read segment by segment. A segment of one dot is left out, and one of two dots takes the
segment before it away, unless that looks like the letter of a drive.
-/

namespace Lockstep.Path

/-- What is written as octets in a path. -/
def special : List Char := [' ', '"', '<', '>', '`', '#', '?', '{', '}']

/-- What is written as octets in a query. -/
def specialInQuery : List Char := [' ', '"', '#', '<', '>', '\'']

/-- A dot, plain or percent-encoded, in front of a segment; and what stands after it. -/
def dot? : List Char → Option (List Char)
  | '.' :: rest => some rest
  | '%' :: '2' :: 'e' :: rest | '%' :: '2' :: 'E' :: rest => some rest
  | _ => none

def isSingleDot (segment : List Char) : Bool := dot? segment = some []

def isDoubleDot (segment : List Char) : Bool := (dot? segment).bind dot? = some []

/-- A letter with a colon or a bar after it. -/
def isDriveLetter : List Char → Bool
  | [a, b] => a.isAlpha && (b = ':' || b = '|')
  | _ => false

/-- Takes the last segment away. `closed` are the segments with a slash after them, the last
first. -/
def ascend : (closed : List (List Char)) → List (List Char)
  | [] => []
  | s :: rest => if isDriveLetter s then s :: rest else rest

/-- Adds a segment with a slash after it. -/
def close (closed : List (List Char)) (segment : List Char) : List (List Char) :=
  if isDoubleDot segment then ascend closed
  else if isSingleDot segment then closed
  else segment :: closed

/-- The path whose segments are `closed`, each with a slash after it, and `last`. -/
def text (closed : List (List Char)) (last : List Char) : List Char :=
  '/' :: (closed.reverse.flatMap (· ++ ['/']) ++ last)

/-- The path that ends with the given segment. -/
def finish (closed : List (List Char)) (segment : List Char) : List Char :=
  if isDoubleDot segment then text (ascend closed) []
  else if isSingleDot segment then text closed []
  else text closed segment

/-- The path with the given segments after those in `closed`. -/
def ofSegments (closed : List (List Char)) : List (List Char) → List Char
  | [] => finish closed []
  | [s] => finish closed s
  | s :: rest => ofSegments (close closed s) rest

end Lockstep.Path
