import FeatureFlags.Text.Split
import FeatureFlags.Url.Percent

/-!
# Paths

A path is a list of segments, or, in a URL such as `mailto:a@b.c` whose path does not begin with a
slash, a text without structure.

A segment of one dot stands for its own directory and one of two dots for the directory above,
which takes the last segment off; as the last segment of a path, both leave an empty segment.  A
segment that looks like a drive letter is never taken off.
-/

namespace FeatureFlags.Url

inductive Path
  /-- A path without structure. -/
  | plain (text : List Char)
  | segments (items : List (List Char))
deriving DecidableEq, Repr

namespace Path

/-- A text with the percent encodings of dots undone, for telling dot segments. -/
def decodeDots : List Char → List Char
  | '%' :: '2' :: 'e' :: rest => '.' :: decodeDots rest
  | '%' :: '2' :: 'E' :: rest => '.' :: decodeDots rest
  | c :: rest => c :: decodeDots rest
  | [] => []

def isDot (segment : List Char) : Bool := decodeDots segment = ['.']

def isDoubleDot (segment : List Char) : Bool := decodeDots segment = ['.', '.']

/-- A letter followed by a colon or a bar. -/
def isDriveLetter : List Char → Bool
  | [letter, mark] => letter.isAlpha && (mark = ':' || mark = '|')
  | _ => false

/-- Takes off the last segment unless it is a drive letter. -/
def shorten (items : List (List Char)) : List (List Char) :=
  match items.getLast? with
  | some last => if isDriveLetter last then items else items.dropLast
  | none => []

/-- Adds an encoded segment to the segments before it. -/
def addSegment (items : List (List Char)) (segment : List Char) (isLast : Bool) :
    List (List Char) :=
  let closed (items : List (List Char)) := if isLast then items ++ [[]] else items
  if isDoubleDot segment then closed (shorten items)
  else if isDot segment then closed items
  else items ++ [segment]

/-- Adds encoded segments in order, the last of which ends the path. -/
def addSegments (items : List (List Char)) : List (List Char) → List (List Char)
  | [] => items
  | [last] => addSegment items last true
  | segment :: next :: rest => addSegments (addSegment items segment false) (next :: rest)

/-- The segments of a path text that follows its first slash. -/
def readSegments (isSeparator : Char → Bool) (text : List Char) : List (List Char) :=
  addSegments [] ((Text.split isSeparator text).map (percentEncode EncodeSet.path))

/-- A first segment that is a drive letter, with its colon. -/
def driveWithColon : List (List Char) → List (List Char)
  | [letter, mark] :: rest =>
    if isDriveLetter [letter, mark] then [letter, ':'] :: rest else [letter, mark] :: rest
  | items => items

/-- Drops empty segments from the front while others follow them. -/
def dropLeadingEmpty : List (List Char) → List (List Char)
  | [] :: next :: rest => dropLeadingEmpty (next :: rest)
  | items => items

def write : Path → List Char
  | plain text => text
  | segments items => items.flatMap ('/' :: ·)

end Path

end FeatureFlags.Url
