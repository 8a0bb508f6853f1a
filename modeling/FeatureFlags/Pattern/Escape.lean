import FeatureFlags.Pattern.Expression
import FeatureFlags.Pattern.Flags
import FeatureFlags.Pattern.NamedClass
import FeatureFlags.Text.Digits

/-!
# Escapes

What may follow a backslash: a character that stands for itself, a letter that stands for a control
character, a class or a kind of place, and the number or name of a character or a class in braces.
Every reader returns what it read and the text behind it.
-/

namespace FeatureFlags.Pattern

open Text (isBlank Digits.hexValue?)
open Unicode (CodePointSet)

/-! ## Blanks and braces -/

/-- Drops white space, and comments from `#` to the end of the line. -/
def dropIgnored (insideComment : Bool) : List Char → List Char
  | [] => []
  | c :: rest =>
    if insideComment then dropIgnored (c ≠ '\n') rest
    else if isBlank c then dropIgnored false rest
    else if c = '#' then dropIgnored true rest
    else c :: rest

/-- Drops what does not count under the given flags. -/
def skip (flags : Flags) (text : List Char) : List Char :=
  if flags.ignoresBlanks then dropIgnored false text else text

/-- The characters before a closing brace, which stands among the given number of characters. -/
def readBraced (flags : Flags) : Nat → List Char → Option (List Char × List Char)
  | 0, _ => none
  | fuel + 1, text =>
    match skip flags text with
    | [] => none
    | '\x7d' :: rest => some ([], rest)
    | c :: rest => (readBraced flags fuel rest).map fun (inside, behind) => (c :: inside, behind)

/-! ## Atoms -/

/-- What stands for something that can be repeated or be part of a class. -/
inductive Atom
  /-- A character; a character written as two hexadecimal digits stands for a byte. -/
  | character (c : Char) (isByte : Bool)
  | set (characters : CodePointSet)
  | place (kind : Place)
deriving DecidableEq, Repr

/-- Characters that have a meaning of their own and stand for themselves behind a backslash. -/
def isMeta (c : Char) : Bool :=
  ['\\', '.', '+', '*', '?', '(', ')', '|', '[', ']', '\x7b', '\x7d', '^', '$', '#', '&', '-',
    '~'].contains c

/-- Characters that stand for themselves behind a backslash. -/
def standsForItself (c : Char) : Bool :=
  isMeta c || (c.toNat < 0x80 && !c.isAlphanum && c ≠ '<' && c ≠ '>')

/-- The control characters that have letters. -/
def controlLetters : List (Char × Char) :=
  [('a', '\x07'), ('f', '\x0c'), ('t', '\t'), ('n', '\n'), ('r', '\r'), ('v', '\x0b')]

/-! ## Numbers of characters -/

/-- The character with the number that hexadecimal digits stand for. -/
def characterOfDigits? (digits : List Char) : Option Char :=
  if digits.isEmpty then none
  else
    (digits.foldlM (fun n c => (Digits.hexValue? c).map (n * 16 + ·)) 0).bind fun n =>
      if n.isValidChar then some (Char.ofNat n) else none

/-- A number of hexadecimal digits. -/
def readHexDigits (flags : Flags) : Nat → List Char → Option (List Char × List Char)
  | 0, text => some ([], text)
  | count + 1, text =>
    match text with
    | c :: rest =>
      if (Digits.hexValue? c).isSome then
        (readHexDigits flags count (skip flags rest)).map fun (digits, behind) =>
          (c :: digits, behind)
      else none
    | [] => none

/-- A character by its number: in braces, or as so many digits. -/
def readNumbered (flags : Flags) (width : Nat) (text : List Char) : Option (Atom × List Char) :=
  match skip flags text with
  | '\x7b' :: rest => do
    let (digits, behind) ← readBraced flags (rest.length + 1) rest
    some (.character (← characterOfDigits? digits) false, behind)
  | text => do
    let (digits, behind) ← readHexDigits flags width text
    some (.character (← characterOfDigits? digits) (width = 2), behind)

/-! ## Classes -/

/-- A set with the case variants of its characters if case does not count. -/
def foldCase (flags : Flags) (characters : CodePointSet) : CodePointSet :=
  if flags.caseInsensitive then
    if flags.unicode then .caseClosure characters else .asciiCaseClosure characters
  else characters

/-- The complement of a set if it is negated. Of sets of ASCII characters there is none, because it
would hold bytes that are no characters. -/
def negateIf? (flags : Flags) (isNegated : Bool) (characters : CodePointSet) :
    Option CodePointSet :=
  if isNegated then if flags.unicode then some characters.complement else none
  else some characters

/-- The text before the first place where a separator stands, and the text behind it. -/
def splitAt? (separator : List Char) : List Char → Option (List Char × List Char)
  | [] => none
  | c :: rest =>
    if separator.isPrefixOf (c :: rest) then some ([], (c :: rest).drop separator.length)
    else (splitAt? separator rest).map fun (before, behind) => (c :: before, behind)

/-- The class that a text in braces describes. -/
def describedClass? (flags : Flags) (isNegated : Bool) (description : List Char) :
    Option CodePointSet :=
  let build (isNegated : Bool) (found : Option CodePointSet) : Option CodePointSet :=
    found.bind fun characters => negateIf? flags isNegated (foldCase flags characters)
  match splitAt? ['!', '='] description with
  | some (property, value) => build (!isNegated) (valuedClass? property value)
  | none =>
    match splitAt? [':'] description with
    | some (property, value) => build isNegated (valuedClass? property value)
    | none =>
      match splitAt? ['='] description with
      | some (property, value) => build isNegated (valuedClass? property value)
      | none => build isNegated (namedClass? description)

/-- A class by its description: in braces, or one letter. -/
def readDescribed (flags : Flags) (isNegated : Bool) (text : List Char) :
    Option (Atom × List Char) :=
  if !flags.unicode then none
  else
    match skip flags text with
    | [] => none
    | '\\' :: _ => none
    | '\x7b' :: rest => do
      let (description, behind) ← readBraced flags (rest.length + 1) rest
      some (.set (← describedClass? flags isNegated description), behind)
    | c :: rest => do
      let characters ← namedClass? [c]
      some (.set (← negateIf? flags isNegated (foldCase flags characters)), rest)

/-! ## Places -/

/-- The kinds of places at the ends of words that have names. -/
def namedPlace? (flags : Flags) : String → Option Place
  | "start" => some (.wordStart (word flags.unicode))
  | "end" => some (.wordEnd (word flags.unicode))
  | "start-half" => some (.wordStartHalf (word flags.unicode))
  | "end-half" => some (.wordEndHalf (word flags.unicode))
  | _ => none

/-- A word boundary, whose kind may be named in braces. Braces around anything but letters and
hyphens are a repetition. -/
def readWordBoundary (flags : Flags) (text : List Char) : Option (Atom × List Char) :=
  let plain := some (Atom.place (.wordBoundary (word flags.unicode)), text)
  match text with
  | '\x7b' :: rest =>
    match skip flags rest with
    | [] => none
    | c :: _ =>
      if c.isAlpha || c = '-' then do
        let (name, behind) ← readBraced flags (rest.length + 1) rest
        some (.place (← namedPlace? flags (String.ofList name)), behind)
      else plain
  | _ => plain

/-! ## All escapes -/

/-- Reads what follows a backslash. -/
def readEscape (flags : Flags) : List Char → Option (Atom × List Char)
  | [] => none
  | c :: rest =>
    let place (kind : Place) : Option (Atom × List Char) := some (.place kind, rest)
    if standsForItself c then some (.character c false, rest)
    else
      match controlLetters.lookup c with
      | some control => some (.character control false, rest)
      | none =>
        match c with
        | 'x' => readNumbered flags 2 rest
        | 'u' => readNumbered flags 4 rest
        | 'U' => readNumbered flags 8 rest
        | 'p' => readDescribed flags false rest
        | 'P' => readDescribed flags true rest
        | 'A' => place .textStart
        | 'z' => place .textEnd
        | 'b' => readWordBoundary flags rest
        | 'B' => place (.noWordBoundary (word flags.unicode))
        | '<' => place (.wordStart (word flags.unicode))
        | '>' => place (.wordEnd (word flags.unicode))
        | _ => do
          let characters ← letterClass? flags.unicode c.toLower
          some (.set (← negateIf? flags c.isUpper characters), rest)

end FeatureFlags.Pattern
