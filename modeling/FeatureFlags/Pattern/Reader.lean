import FeatureFlags.Pattern.Class
import FeatureFlags.Pattern.Size

/-!
# Reading patterns

A pattern is read from the left to the right.  The reader keeps the items of the branch it is in,
the branches before it, and what it kept for each group that is still open.  Flags that a group
sets count until its end.

There are no references to groups and no conditions on the text around a match.  A pattern that
nests too deeply or would take too much room is refused.
-/

namespace FeatureFlags.Pattern

open Unicode (CodePointSet)

/-- A part of a pattern. -/
structure Item where
  expression : Expression
  /-- The depth of its nesting. -/
  depth : Nat := 0
  /-- Whether a repetition may follow. -/
  isRepeatable : Bool := true
deriving DecidableEq, Repr

namespace Item

/-- The deepest of several items. -/
def maxDepth (items : List Item) : Nat := (items.map (·.depth)).foldl max 0

/-- Items after one another; the last one is given first. -/
def sequence : List Item → Item
  | [] => { expression := .empty }
  | [item] => item
  | items =>
    { expression := items.tail.foldl (fun behind item => .seq item.expression behind)
        ((items.head?.map (·.expression)).getD .empty)
      depth := maxDepth items + 1 }

/-- Items of which one matches; the last one is given first. -/
def choice : List Item → Item
  | [] => { expression := .empty }
  | [item] => item
  | items =>
    { expression := items.tail.foldl (fun behind item => .either item.expression behind)
        ((items.head?.map (·.expression)).getD .empty)
      depth := maxDepth items + 1 }

end Item

/-- What a group contains so far: its finished branches and the items of the last branch, both with
the last one first, and the flags that count in it. -/
structure OpenGroup where
  flags : Flags := {}
  branches : List Item := []
  items : List Item := []
deriving DecidableEq, Repr

namespace OpenGroup

def add (group : OpenGroup) (item : Item) : OpenGroup :=
  { group with items := item :: group.items }

def nextBranch (group : OpenGroup) : OpenGroup :=
  { group with branches := Item.sequence group.items :: group.branches, items := [] }

/-- What the group matches. -/
def close (group : OpenGroup) : Item := Item.choice group.nextBranch.branches

end OpenGroup

structure Reader where
  current : OpenGroup := {}
  /-- The groups around the current one. -/
  outer : List OpenGroup := []
  /-- The names of groups so far. -/
  names : List (List Char) := []

/-! ## Leaves -/

/-- What a dot matches. Without Unicode it would match bytes that are no characters. -/
def dot? (flags : Flags) : Option CodePointSet :=
  if !flags.unicode then none
  else if flags.dotMatchesAll then some .all
  else if flags.carriageReturns then
    some (.ranges [(0, 9), (11, 12), (14, 0x10FFFF)])
  else some (.ranges [(0, 9), (11, 0x10FFFF)])

def lineStart (flags : Flags) : Place :=
  if flags.multiLine then .lineStart flags.carriageReturns else .textStart

def lineEnd (flags : Flags) : Place :=
  if flags.multiLine then .lineEnd flags.carriageReturns else .textEnd

/-- What a character matches: itself, and its case variants if case does not count. -/
def characterSet (flags : Flags) (c : Char) : CodePointSet :=
  let variants := if flags.unicode then Unicode.caseVariants c.toNat
    else Unicode.asciiCaseVariants c.toNat
  if flags.caseInsensitive && variants.length > 1 then .ranges (variants.map fun n => (n, n))
  else .single c.toNat

/-- What an atom matches. -/
def atomExpression? (flags : Flags) : Atom → Option Expression
  | .character c isByte =>
    if !flags.unicode && isByte && 0x80 ≤ c.toNat then none else some (.set (characterSet flags c))
  | .set characters => some (.set characters)
  | .place kind => some (.place kind)

/-! ## Repetitions -/

/-- A question mark behind a repetition, which makes it lazy, is dropped. -/
def dropLazy : List Char → List Char
  | '?' :: rest => rest
  | text => text

/-- Digits with ignored characters between them. -/
def readDigits (flags : Flags) : Nat → List Char → List Char × List Char
  | 0, text => ([], text)
  | fuel + 1, text =>
    match text with
    | c :: rest =>
      if Text.Digits.isDigit c then
        let (digits, behind) := readDigits flags fuel (skip flags rest)
        (c :: digits, behind)
      else ([], text)
    | [] => ([], [])

/-- A number of at most 32 bits between white space; `none` if there are no digits. -/
def readCount (flags : Flags) (text : List Char) : Option (Option Nat × List Char) :=
  let (digits, behind) := readDigits flags text.length (text.dropWhile Text.isBlank)
  let behind := skip flags (behind.dropWhile Text.isBlank)
  match digits with
  | [] => some (none, behind)
  | digits =>
    ((Text.Digits.read? digits).filter (· < Nat.pow 2 32)).map fun count => (some count, behind)

/-- The limits of a repetition, behind its opening brace: a number, a least number, or a least and
a greatest one. -/
def readLimits (flags : Flags) (text : List Char) : Option ((Nat × Option Nat) × List Char) := do
  let (least, behind) ← readCount flags (skip flags text)
  let least ← least
  match behind with
  | '\x7d' :: rest => some ((least, some least), rest)
  | ',' :: rest =>
    match skip flags rest with
    | '\x7d' :: rest => some ((least, none), rest)
    | rest => do
      let (greatest, behind) ← readCount flags rest
      let greatest ← greatest
      match behind with
      | '\x7d' :: rest => if least ≤ greatest then some ((least, some greatest), rest) else none
      | _ => none
  | _ => none

namespace OpenGroup

/-- Repeats the last item. -/
def repeatLast? (group : OpenGroup) (min : Nat) (max : Option Nat) : Option OpenGroup :=
  match group.items with
  | item :: rest =>
    if item.isRepeatable then
      some { group with
        items := { expression := .times item.expression min max, depth := item.depth + 1 } :: rest }
    else none
  | [] => none

end OpenGroup

/-! ## Groups -/

/-- Characters of which the name of a group consists. -/
def isNameCharacter (isFirst : Bool) (c : Char) : Bool :=
  let isIn (set : Option CodePointSet) : Bool := set.any (·.contains c.toNat)
  c = '_' || isIn (Unicode.property? "alphabetic") ||
    (!isFirst && (c = '.' || c = '[' || c = ']' || isIn (Unicode.category? "n")))

/-- The name of a group, before a closing angle bracket. -/
def readName (text : List Char) : Option (List Char × List Char) :=
  match text.takeWhile (· ≠ '>'), text.dropWhile (· ≠ '>') with
  | first :: others, _ :: rest =>
    if isNameCharacter true first && others.all (isNameCharacter false) then
      some (first :: others, rest)
    else none
  | _, _ => none

namespace Reader

/-- Adds what matches at the present place. -/
def add (reader : Reader) (item : Item) : Reader :=
  { reader with current := reader.current.add item }

/-- Opens a group with the given flags. -/
def push (reader : Reader) (flags : Flags) : Reader :=
  { reader with current := { flags }, outer := reader.current :: reader.outer }

/-- Closes the current group. -/
def pop? (reader : Reader) : Option Reader :=
  match reader.outer with
  | enclosing :: outer =>
    let closed := reader.current.close
    some { reader with
      current := enclosing.add { expression := closed.expression, depth := closed.depth + 1 }
      outer }
  | [] => none

/-- Opens a group with a name that no other group has. -/
def pushNamed? (reader : Reader) (text : List Char) : Option (Reader × List Char) := do
  let (name, rest) ← readName text
  if reader.names.contains name then none
  else some ({ reader.push reader.current.flags with names := name :: reader.names }, rest)

/-- Changes flags, for the rest of the current group or for a new one. -/
def changeFlags? (reader : Reader) (text : List Char) : Option (Reader × List Char) := do
  let letters := text.takeWhile fun c => c ≠ ':' && c ≠ ')'
  let flags ← reader.current.flags.change? letters
  match text.dropWhile fun c => c ≠ ':' && c ≠ ')' with
  | ')' :: rest =>
    if letters.isEmpty then none
    else
      let marked := reader.add { expression := .empty, isRepeatable := false }
      some ({ marked with current := { marked.current with flags } }, rest)
  | _ :: rest => some (reader.push flags, rest)
  | [] => none

/-- Reads the front of a group, behind its opening bracket. -/
def openGroup? (reader : Reader) (text : List Char) : Option (Reader × List Char) :=
  match skip reader.current.flags text with
  | '?' :: '=' :: _ => none
  | '?' :: '!' :: _ => none
  | '?' :: '<' :: '=' :: _ => none
  | '?' :: '<' :: '!' :: _ => none
  | '?' :: 'P' :: '<' :: rest => reader.pushNamed? rest
  | '?' :: '<' :: rest => reader.pushNamed? rest
  | '?' :: rest => reader.changeFlags? rest
  | rest => some (reader.push reader.current.flags, rest)

/-- Adds a leaf. -/
def addExpression? (reader : Reader) (expression : Option Expression) : Option Reader :=
  expression.map fun expression => reader.add { expression }

/-- Repeats the last item. -/
def repeatLast? (reader : Reader) (min : Nat) (max : Option Nat) : Option Reader :=
  (reader.current.repeatLast? min max).map fun current => { reader with current }

/-- Reads one part of a pattern, of which the first character is given. -/
def readPart? (reader : Reader) (c : Char) (rest : List Char) : Option (Reader × List Char) :=
  let flags := reader.current.flags
  match c with
  | '(' => reader.openGroup? rest
  | ')' => reader.pop?.map (·, rest)
  | '|' => some ({ reader with current := reader.current.nextBranch }, rest)
  | '[' => do
    let (found, behind) ← readClass flags rest
    some (reader.add { expression := .set found.characters, depth := found.depth }, behind)
  | '?' => (reader.repeatLast? 0 (some 1)).map (·, dropLazy rest)
  | '*' => (reader.repeatLast? 0 none).map (·, dropLazy rest)
  | '+' => (reader.repeatLast? 1 none).map (·, dropLazy rest)
  | '\x7b' => do
    let ((min, max), behind) ← readLimits flags rest
    some (← reader.repeatLast? min max, dropLazy (skip flags behind))
  | '\\' => do
    let (atom, behind) ← readEscape flags rest
    some (← reader.addExpression? (atomExpression? flags atom), behind)
  | '.' => (reader.addExpression? ((dot? flags).map .set)).map (·, rest)
  | '^' => some (reader.add { expression := .place (lineStart flags) }, rest)
  | '$' => some (reader.add { expression := .place (lineEnd flags) }, rest)
  | c => (reader.addExpression? (atomExpression? flags (.character c false))).map (·, rest)

/-- Reads a pattern to its end; each part takes at least one character. -/
def read? : Nat → Reader → List Char → Option Item
  | 0, _, _ => none
  | fuel + 1, reader, text =>
    match skip reader.current.flags text with
    | [] => if reader.outer.isEmpty then some reader.current.close else none
    | c :: rest => (reader.readPart? c rest).bind fun (next, behind) => read? fuel next behind

end Reader

/-- The depth to which patterns may nest. -/
def depthLimit : Nat := 250

/-- Reads a pattern. -/
def read? (text : List Char) : Option Expression :=
  match Reader.read? (text.length + 1) {} text with
  | some item =>
    if item.depth ≤ depthLimit && item.expression.size ≤ sizeLimit then some item.expression
    else none
  | none => none

end FeatureFlags.Pattern
