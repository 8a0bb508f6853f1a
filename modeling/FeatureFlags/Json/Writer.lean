import FeatureFlags.Json
import FeatureFlags.Number.Format
import FeatureFlags.Text.Digits
import FeatureFlags.Text.Utf8

/-!
# Writing JSON text

Compact text without spaces.  Strings escape the quote, the backslash and the control characters
below `U+0020`; members appear in the order of their names.
-/

namespace FeatureFlags.Json

open Text

/-- The text of one character inside a string. -/
def escapeChar (c : Char) : List Char :=
  if c = '"' then ['\\', '"']
  else if c = '\\' then ['\\', '\\']
  else if c = '\x08' then ['\\', 'b']
  else if c = '\t' then ['\\', 't']
  else if c = '\n' then ['\\', 'n']
  else if c = '\x0c' then ['\\', 'f']
  else if c = '\r' then ['\\', 'r']
  else if c.toNat < 0x20 then '\\' :: 'u' :: Digits.writeHex 4 c.toNat
  else [c]

def writeString (s : String) : List Char :=
  '"' :: (s.toList.flatMap escapeChar ++ ['"'])

mutual

/-- The compact text of a tree. -/
def write : Json → List Char
  | null => ['n', 'u', 'l', 'l']
  | bool true => ['t', 'r', 'u', 'e']
  | bool false => ['f', 'a', 'l', 's', 'e']
  | integer n => Digits.writeInt n
  | float x => Number.Format.json.write x
  | string s => writeString s
  | array items => '[' :: (writeItems items ++ [']'])
  | object members => '\x7b' :: (writeMembers members ++ ['\x7d'])

/-- Items separated by commas. -/
def writeItems : List Json → List Char
  | [] => []
  | [item] => write item
  | item :: next :: rest => write item ++ ',' :: writeItems (next :: rest)

/-- Members separated by commas. -/
def writeMembers : List (String × Json) → List Char
  | [] => []
  | [(name, member)] => writeString name ++ ':' :: write member
  | (name, member) :: next :: rest =>
    writeString name ++ ':' :: (write member ++ ',' :: writeMembers (next :: rest))

end

/-- The compact text as a string. -/
def text (json : Json) : String := String.ofList json.write

/-- The bytes of the compact text. -/
def bytes (json : Json) : Utf8.Bytes := Utf8.encode json.write

end FeatureFlags.Json
