import FeatureFlags.Pattern.Escape

/-!
# Classes in brackets

A class in brackets is the union of characters, ranges, escapes, ASCII classes and further classes
in brackets.  Unions can be combined by intersection, difference and symmetric difference, from the
left to the right.  A caret at the front negates the class; hyphens at the front, and a closing
bracket there, stand for themselves.

The depth of a class is the depth of its nesting, which is limited for a pattern as a whole.
-/

namespace FeatureFlags.Pattern

open Unicode (CodePointSet)

inductive ClassOperator
  | intersection
  | difference
  | symmetricDifference
deriving DecidableEq, Repr

def ClassOperator.apply : ClassOperator → CodePointSet → CodePointSet → CodePointSet
  | intersection, a, b => .intersection a b
  | difference, a, b => .difference a b
  | symmetricDifference, a, b => .symmetricDifference a b

/-- A set of characters and the depth of its nesting. -/
structure NestedSet where
  characters : CodePointSet := .empty
  depth : Nat := 0
deriving DecidableEq, Repr

/-- A class that is being read. -/
structure OpenClass where
  isNegated : Bool
  /-- The left side of an operator. -/
  pending : Option (ClassOperator × NestedSet) := none
  /-- The items of the union read so far. -/
  items : List NestedSet := []
deriving DecidableEq, Repr

namespace OpenClass

def add (openClass : OpenClass) (item : NestedSet) : OpenClass :=
  { openClass with items := item :: openClass.items }

/-- The union of the items. -/
def union (openClass : OpenClass) : NestedSet :=
  match openClass.items with
  | [item] => item
  | items =>
    let depth := (items.map (·.depth)).foldl max 0
    { characters := CodePointSet.unions (items.map (·.characters)),
      depth := if items.isEmpty then 0 else depth + 1 }

/-- The set read so far, with a pending operator applied. -/
def combined (openClass : OpenClass) (flags : Flags) : NestedSet :=
  let right := openClass.union
  match openClass.pending with
  | none => right
  | some (operator, left) =>
    { characters :=
        operator.apply (foldCase flags left.characters) (foldCase flags right.characters),
      depth := max left.depth right.depth + 1 }

/-- Begins the right side of an operator. -/
def operator (openClass : OpenClass) (flags : Flags) (operator : ClassOperator) : OpenClass :=
  { openClass with pending := some (operator, openClass.combined flags), items := [] }

/-- The class at its closing bracket. -/
def close? (openClass : OpenClass) (flags : Flags) : Option NestedSet :=
  let inside := openClass.combined flags
  (negateIf? flags openClass.isNegated (foldCase flags inside.characters)).map fun characters =>
    { characters, depth := inside.depth + 1 }

end OpenClass

/-! ## Items -/

/-- A character as the member of a class; where only ASCII counts, it has to be ASCII. -/
def member? (flags : Flags) : Atom → Option Char
  | .character c _ => if flags.unicode || c.toNat < 0x80 then some c else none
  | _ => none

/-- An atom as the item of a class. -/
def atomItem? (flags : Flags) (atom : Atom) : Option CodePointSet :=
  match atom with
  | .character _ _ => (member? flags atom).map fun c => .single c.toNat
  | .set characters => some characters
  | .place _ => none

/-- An escape, or a character that stands for itself. -/
def readClassAtom (flags : Flags) : List Char → Option (Atom × List Char)
  | [] => none
  | '\\' :: rest => readEscape flags rest
  | c :: rest => some (.character c false, rest)

/-- A range or a single item. A hyphen before a closing bracket or another hyphen makes no range. -/
def readRange (flags : Flags) (text : List Char) : Option (CodePointSet × List Char) := do
  let (first, behind) ← readClassAtom flags text
  let single : Option (CodePointSet × List Char) :=
    (atomItem? flags first).map fun characters => (characters, behind)
  match skip flags behind with
  | [] => none
  | '-' :: rest =>
    match skip flags rest with
    | ']' :: _ => single
    | '-' :: _ => single
    | text => do
      let (last, behind) ← readClassAtom flags text
      let first ← member? flags first
      let last ← member? flags last
      if first ≤ last then some (.range first.toNat last.toNat, behind) else none
  | _ => single

/-- An ASCII class such as `[:alpha:]`, of which the bracket has been read. -/
def readAsciiClass (flags : Flags) : List Char → Option (Option CodePointSet × List Char)
  | ':' :: rest =>
    let isNegated := rest.head? = some '^'
    let rest := if isNegated then rest.tail else rest
    match rest.dropWhile (· ≠ ':') with
    | ':' :: ']' :: behind =>
      (asciiClass? (String.ofList (rest.takeWhile (· ≠ ':')))).map fun characters =>
        (negateIf? flags isNegated (foldCase flags characters), behind)
    | _ => none
  | _ => none

/-! ## Classes -/

/-- Hyphens that stand for themselves at the front of a class. -/
def readHyphens (flags : Flags) : Nat → OpenClass → List Char → OpenClass × List Char
  | 0, openClass, text => (openClass, text)
  | fuel + 1, openClass, text =>
    match text with
    | '-' :: rest =>
      readHyphens flags fuel (openClass.add { characters := .single '-'.toNat }) (skip flags rest)
    | _ => (openClass, text)

/-- The front of a class, behind its opening bracket. -/
def readClassFront (flags : Flags) (text : List Char) : OpenClass × List Char :=
  let text := skip flags text
  let isNegated := text.head? = some '^'
  let text := if isNegated then skip flags text.tail else text
  let (openClass, text) := readHyphens flags text.length { isNegated } text
  match text with
  | ']' :: rest =>
    if openClass.items.isEmpty then
      (openClass.add { characters := .single ']'.toNat }, skip flags rest)
    else (openClass, text)
  | _ => (openClass, text)

/-- Reads the rest of a class that is open inside others. -/
def readOpenClass (flags : Flags) :
    Nat → OpenClass → List OpenClass → List Char → Option (NestedSet × List Char)
  | 0, _, _, _ => none
  | fuel + 1, openClass, outer, text =>
    match skip flags text with
    | [] => none
    | ']' :: rest => do
      let closed ← openClass.close? flags
      match outer with
      | [] => some (closed, rest)
      | enclosing :: outer => readOpenClass flags fuel (enclosing.add closed) outer rest
    | '[' :: rest =>
      match readAsciiClass flags rest with
      | some (characters, behind) => do
        readOpenClass flags fuel (openClass.add { characters := ← characters }) outer behind
      | none =>
        let (inner, behind) := readClassFront flags rest
        readOpenClass flags fuel inner (openClass :: outer) behind
    | '&' :: '&' :: rest =>
      readOpenClass flags fuel (openClass.operator flags .intersection) outer rest
    | '-' :: '-' :: rest =>
      readOpenClass flags fuel (openClass.operator flags .difference) outer rest
    | '~' :: '~' :: rest =>
      readOpenClass flags fuel (openClass.operator flags .symmetricDifference) outer rest
    | text => do
      let (characters, behind) ← readRange flags text
      readOpenClass flags fuel (openClass.add { characters }) outer behind

/-- Reads a class, behind its opening bracket. -/
def readClass (flags : Flags) (text : List Char) : Option (NestedSet × List Char) :=
  let (openClass, behind) := readClassFront flags text
  readOpenClass flags (text.length + 1) openClass [] behind

end FeatureFlags.Pattern
