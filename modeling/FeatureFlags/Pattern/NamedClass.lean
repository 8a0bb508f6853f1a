import FeatureFlags.Text.Blank
import FeatureFlags.Unicode.Age
import FeatureFlags.Unicode.Category
import FeatureFlags.Unicode.Property
import FeatureFlags.Unicode.Script
import FeatureFlags.Unicode.Word

/-!
# Classes of characters with names

The classes that a pattern can name: by a letter behind a backslash, in brackets between colons, or
by a property, category or script.
-/

namespace FeatureFlags.Pattern

open Unicode (CodePointSet)

/-! ## Letters behind a backslash -/

/-- White space. -/
def blanks : CodePointSet :=
  .ranges [(9, 13), (0x20, 0x20), (0x85, 0x85), (0xA0, 0xA0), (0x1680, 0x1680), (0x2000, 0x200A),
    (0x2028, 0x2029), (0x202F, 0x202F), (0x205F, 0x205F), (0x3000, 0x3000)]

def asciiDigits : CodePointSet := .range 48 57

def asciiBlanks : CodePointSet := .ranges [(9, 13), (32, 32)]

def asciiWord : CodePointSet := .ranges [(48, 57), (65, 90), (95, 95), (97, 122)]

/-- Word characters, of ASCII or of all of Unicode. -/
def word (unicode : Bool) : CodePointSet := if unicode then Unicode.wordCharacters else asciiWord

/-- The class of a small letter: digits, white space, or word characters. -/
def letterClass? (unicode : Bool) (letter : Char) : Option CodePointSet :=
  if letter = 'd' then
    if unicode then Unicode.category? "nd" else some asciiDigits
  else if letter = 's' then some (if unicode then blanks else asciiBlanks)
  else if letter = 'w' then some (word unicode)
  else none

/-! ## Names between colons -/

/-- The classes of ASCII characters. -/
def asciiClasses : List (String × List (Nat × Nat)) :=
  [("alnum", [(48, 57), (65, 90), (97, 122)]),
   ("alpha", [(65, 90), (97, 122)]),
   ("ascii", [(0, 127)]),
   ("blank", [(9, 9), (32, 32)]),
   ("cntrl", [(0, 31), (127, 127)]),
   ("digit", [(48, 57)]),
   ("graph", [(33, 126)]),
   ("lower", [(97, 122)]),
   ("print", [(32, 126)]),
   ("punct", [(33, 47), (58, 64), (91, 96), (123, 126)]),
   ("space", [(9, 13), (32, 32)]),
   ("upper", [(65, 90)]),
   ("word", [(48, 57), (65, 90), (95, 95), (97, 122)]),
   ("xdigit", [(48, 57), (65, 70), (97, 102)])]

def asciiClass? (name : String) : Option CodePointSet :=
  (asciiClasses.lookup name).map .ranges

/-! ## Properties -/

/-- A name without what does not count in it: case, spaces, hyphens, underscores, characters that
are not ASCII, and `is` at the front. -/
def looseName (name : List Char) : String :=
  let loose (text : List Char) : List Char :=
    (text.filter fun c => c.toNat < 0x80 && c ≠ ' ' && c ≠ '_' && c ≠ '-').map Char.toLower
  match name with
  | first :: second :: rest =>
    if first.toLower = 'i' && second.toLower = 's' then
      let stripped := loose rest
      String.ofList (if stripped = ['c'] then ['i', 's', 'c'] else stripped)
    else String.ofList (loose name)
  | _ => String.ofList (loose name)

/-- The class of a name that stands alone. -/
def namedClass? (name : List Char) : Option CodePointSet :=
  let name := looseName name
  (Unicode.property? name).orElse fun _ =>
    (Unicode.category? name).orElse fun _ => Unicode.script? name

/-- The class of a property that has one of several values. -/
def valuedClass? (property value : List Char) : Option CodePointSet :=
  let value := looseName value
  match looseName property with
  | "gc" => Unicode.category? value
  | "generalcategory" => Unicode.category? value
  | "sc" => Unicode.script? value
  | "script" => Unicode.script? value
  | "scx" => Unicode.scriptExtension? value
  | "scriptextensions" => Unicode.scriptExtension? value
  | "age" => Unicode.age? value
  | _ => none

end FeatureFlags.Pattern
