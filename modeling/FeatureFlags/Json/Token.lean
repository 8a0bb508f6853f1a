import FeatureFlags.Json.Draft
import FeatureFlags.Json.Numeral
import FeatureFlags.Text.Utf16
import FeatureFlags.Text.Utf8

/-!
# Tokens of JSON text

A text is a sequence of bytes.  A string token must be closed, must not hold a control character
and must use known escapes; whether its bytes are UTF-8 and its surrogate escapes come in pairs is
judged separately, and a string that fails this is a token without content.  In the same way a
numeral beyond the range of doubles is a token whose value is malformed.
-/

namespace FeatureFlags.Json

open Text Text.Utf8

/-- The byte of an ASCII character. -/
def ascii (c : Char) : UInt8 := c.toNat.toUInt8

inductive Token
  | openArray
  | closeArray
  | openObject
  | closeObject
  | comma
  | colon
  /-- A string, with its content if that is acceptable. -/
  | string (content : Option String)
  /-- A number or one of the words `null`, `true`, `false`. -/
  | scalar (value : Draft)

namespace Token

def isSpace (b : UInt8) : Bool :=
  b = ascii ' ' || b = ascii '\n' || b = ascii '\t' || b = ascii '\r'

/-- The character as which a byte stands if it is ASCII. -/
def charOf (b : UInt8) : Char := Char.ofNat b.toNat

def isDigit (b : UInt8) : Bool := Digits.isDigit (charOf b)

def hexValue? (b : UInt8) : Option Nat := if b < 0x80 then Digits.hexValue? (charOf b) else none

def isHex (b : UInt8) : Bool := (hexValue? b).isSome

/-- The character of a one-letter escape. -/
def escape? (b : UInt8) : Option Char :=
  match charOf b with
  | '"' => some '"'
  | '\\' => some '\\'
  | '/' => some '/'
  | 'b' => some '\x08'
  | 'f' => some '\x0c'
  | 'n' => some '\n'
  | 'r' => some '\r'
  | 't' => some '\t'
  | _ => none

/-- Splits the text behind an opening quote into the raw content of the string and what follows
its closing quote. -/
def scanString : Bytes → Option (Bytes × Bytes)
  | [] => none
  | b :: rest =>
    if b = ascii '"' then some ([], rest)
    else if b = ascii '\\' then
      match rest with
      | e :: rest₁ =>
        if e = ascii 'u' then
          match rest₁ with
          | h₁ :: h₂ :: h₃ :: h₄ :: rest₂ =>
            if isHex h₁ && isHex h₂ && isHex h₃ && isHex h₄ then
              (scanString rest₂).map fun (raw, after) =>
                (b :: e :: h₁ :: h₂ :: h₃ :: h₄ :: raw, after)
            else none
          | _ => none
        else if (escape? e).isSome then
          (scanString rest₁).map fun (raw, after) => (b :: e :: raw, after)
        else none
      | [] => none
    else if b < 0x20 then none
    else (scanString rest).map fun (raw, after) => (b :: raw, after)

/-- The code unit of four hexadecimal digits. -/
def codeUnit (h₁ h₂ h₃ h₄ : UInt8) : Nat :=
  let value := fun b => (hexValue? b).getD 0
  value h₁ * 4096 + value h₂ * 256 + value h₃ * 16 + value h₄

/-- The code unit at the front of a text, and what follows its four digits. -/
def takeUnit? : Bytes → Option (Nat × Bytes)
  | h₁ :: h₂ :: h₃ :: h₄ :: rest => some (codeUnit h₁ h₂ h₃ h₄, rest)
  | _ => none

/-- The second half of a surrogate pair whose first half is `leading`. -/
def completePair? (leading : Nat) : Bytes → Option (Char × Bytes)
  | b :: e :: rest =>
    if b = ascii '\\' && e = ascii 'u' then
      match takeUnit? rest with
      | some (unit, after) =>
        if Utf16.isTrailing unit then some (Utf16.pair leading unit, after) else none
      | none => none
    else none
  | _ => none

/-- The character whose escape `\u` has been read. -/
def unicodeEscape? (text : Bytes) : Option (Char × Bytes) :=
  match takeUnit? text with
  | some (unit, rest) =>
    if Utf16.isTrailing unit then none
    else if Utf16.isLeading unit then completePair? unit rest
    else some (Char.ofNat unit, rest)
  | none => none

/-- The character at the front of a string's raw content, and what follows it. -/
def nextChar? : Bytes → Option (Char × Bytes)
  | [] => none
  | b :: rest =>
    if b = ascii '\\' then
      match rest with
      | e :: after =>
        if e = ascii 'u' then unicodeEscape? after else (escape? e).map (·, after)
      | [] => none
    else
      match Utf8.next b rest with
      | .char c tail => some (c, tail)
      | .invalid _ => none

theorem length_of_takeUnit? {text rest : Bytes} {unit : Nat}
    (h : takeUnit? text = some (unit, rest)) : rest.length + 4 = text.length := by
  unfold takeUnit? at h
  split at h
  · simp only [Option.some.injEq, Prod.mk.injEq] at h
    simp [← h.2]
  · contradiction

theorem length_le_of_completePair? {leading : Nat} {text rest : Bytes} {c : Char}
    (h : completePair? leading text = some (c, rest)) : rest.length ≤ text.length := by
  unfold completePair? at h
  repeat' split at h
  all_goals try contradiction
  rename_i hunit _
  have hlength := length_of_takeUnit? hunit
  simp only [Option.some.injEq, Prod.mk.injEq] at h
  simp only [← h.2, List.length_cons]
  omega

theorem length_le_of_unicodeEscape? {text rest : Bytes} {c : Char}
    (h : unicodeEscape? text = some (c, rest)) : rest.length ≤ text.length := by
  unfold unicodeEscape? at h
  split at h
  · rename_i hunit
    have hlength := length_of_takeUnit? hunit
    split at h
    · contradiction
    · split at h
      · have hpair := length_le_of_completePair? h
        omega
      · simp only [Option.some.injEq, Prod.mk.injEq] at h
        simp only [← h.2]
        omega
  · contradiction

theorem length_lt_of_nextChar? {raw rest : Bytes} {c : Char} (h : nextChar? raw = some (c, rest)) :
    rest.length < raw.length := by
  unfold nextChar? at h
  split at h
  · contradiction
  · rename_i b tail
    split at h
    · split at h
      · split at h
        · have hescape := length_le_of_unicodeEscape? h
          simp only [List.length_cons]
          omega
        · simp only [Option.map_eq_some_iff, Prod.mk.injEq] at h
          obtain ⟨_, _, _, hrest⟩ := h
          simp only [← hrest, List.length_cons]
          omega
      · contradiction
    · have hnext := Utf8.length_rest_next_le b tail
      split at h
      · rename_i hfront
        simp only [hfront, Utf8.Front.rest] at hnext
        simp only [Option.some.injEq, Prod.mk.injEq] at h
        simp only [← h.2, List.length_cons]
        omega
      · contradiction

/-- The characters of a string, from its raw content. -/
def unescape? (raw : Bytes) : Option (List Char) :=
  match _piece : nextChar? raw with
  | some (c, rest) => (unescape? rest).map (c :: ·)
  | none => if raw.isEmpty then some [] else none
termination_by raw.length
decreasing_by exact length_lt_of_nextChar? _piece

/-- The digits at the front of a text. -/
def takeDigits (text : Bytes) : List Char × Bytes :=
  ((text.takeWhile isDigit).map charOf, text.dropWhile isDigit)

/-- The whole part of a numeral: a zero, or digits that do not begin with zero. -/
def scanWhole (text : Bytes) : Option (List Char × Bytes) :=
  match takeDigits text with
  | ([], _) => none
  | (['0'], rest) => some (['0'], rest)
  | ('0' :: _ :: _, _) => none
  | (digits, rest) => some (digits, rest)

/-- The fraction of a numeral: a point and digits, or nothing. -/
def scanFraction (text : Bytes) : Option (List Char × Bool × Bytes) :=
  match text with
  | b :: rest =>
    if b = ascii '.' then
      match takeDigits rest with
      | ([], _) => none
      | (digits, after) => some (digits, true, after)
    else some ([], false, text)
  | [] => some ([], false, [])

/-- The exponent of a numeral: a mark, a sign and digits, or nothing. -/
def scanExponent (text : Bytes) : Option (Option Int × Bytes) :=
  match text with
  | b :: rest =>
    if b = ascii 'e' || b = ascii 'E' then
      let (negative, digits) := match rest with
        | s :: after =>
          if s = ascii '-' then (true, after)
          else if s = ascii '+' then (false, after)
          else (false, rest)
        | [] => (false, rest)
      match takeDigits digits with
      | ([], _) => none
      | (exponentDigits, after) =>
        let n : Int := (Digits.read? exponentDigits).getD 0
        some (some (if negative then -n else n), after)
    else some (none, text)
  | [] => some (none, [])

/-- The numeral at the front of a text. -/
def scanNumeral (negative : Bool) (text : Bytes) : Option (Numeral × Bytes) := do
  let (whole, rest₁) ← scanWhole text
  let (fraction, hasFraction, rest₂) ← scanFraction rest₁
  let (exponent, rest₃) ← scanExponent rest₂
  some (⟨negative, whole, fraction, hasFraction, exponent⟩, rest₃)

/-- The value of a numeral as a scalar token. -/
def ofNumeral (numeral : Numeral) : Token :=
  scalar <| match numeral.toJson? with
    | some json => Draft.ofJson json
    | none => .malformed

/-- Reads the word `word`, whose first letter has been read. -/
def scanWord (word : String) (value : Draft) (text : Bytes) : Option (Token × Bytes) :=
  let letters := (word.toList.drop 1).map ascii
  if letters.isPrefixOf text then some (scalar value, text.drop letters.length) else none

/-- The token that begins with the byte `b`, which is followed by `rest`. -/
def scan (b : UInt8) (rest : Bytes) : Option (Token × Bytes) :=
  match charOf b with
  | '[' => some (openArray, rest)
  | ']' => some (closeArray, rest)
  | '{' => some (openObject, rest)
  | '}' => some (closeObject, rest)
  | ',' => some (comma, rest)
  | ':' => some (colon, rest)
  | '"' => (scanString rest).map fun (raw, after) =>
      (string ((unescape? raw).map String.ofList), after)
  | 'n' => scanWord "null" .null rest
  | 't' => scanWord "true" (.bool true) rest
  | 'f' => scanWord "false" (.bool false) rest
  | '-' => (scanNumeral true rest).map fun (numeral, after) => (ofNumeral numeral, after)
  | _ => (scanNumeral false (b :: rest)).map fun (numeral, after) => (ofNumeral numeral, after)

/-- The tokens of a text; the budget bounds their number. -/
def scanAll : Nat → Bytes → Option (List Token)
  | _, [] => some []
  | 0, _ => none
  | budget + 1, b :: rest =>
    if isSpace b then scanAll budget rest
    else
      match scan b rest with
      | some (token, after) => (scanAll budget after).map (token :: ·)
      | none => none

/-- The tokens of a text. Every token takes at least one byte. -/
def ofBytes? (text : Bytes) : Option (List Token) := scanAll text.length text

end Token

end FeatureFlags.Json
