import FeatureFlags.Text.Digits
import FeatureFlags.Text.Utf8

/-!
# Percent encoding

A part of a URL holds ASCII only: every other character, and every ASCII character that would be
misread in its place, is replaced by its UTF-8 bytes, each written as a percent sign and two
hexadecimal digits.  Which ASCII characters are replaced depends on the part.
-/

namespace FeatureFlags.Url

open Text (Digits.hexDigit Digits.hexValue?)
open Text.Utf8 (Bytes)

/-- The ASCII characters that are replaced in a part of a URL. -/
abbrev EncodeSet := Char → Bool

namespace EncodeSet

/-- Control characters, which are replaced everywhere. -/
def controls : EncodeSet := fun c => c.toNat < 0x20 || c.toNat = 0x7F

/-- A set with further characters. -/
def adding (base : EncodeSet) (more : List Char) : EncodeSet := fun c => base c || more.contains c

def fragment : EncodeSet := controls.adding [' ', '"', '<', '>', '\x60']

def query : EncodeSet := controls.adding [' ', '"', '#', '<', '>']

/-- The query of a URL whose scheme is special. -/
def specialQuery : EncodeSet := query.adding ['\'']

def path : EncodeSet := fragment.adding ['#', '?', '\x7b', '\x7d']

/-- A path segment that is added on its own, where a slash and a percent sign stand for
themselves. -/
def segment : EncodeSet := path.adding ['/', '%']

/-- A segment added to the path of a URL whose scheme is special. -/
def specialSegment : EncodeSet := segment.adding ['\\']

def userinfo : EncodeSet :=
  path.adding ['/', ':', ';', '=', '@', '[', '\\', ']', '^', '|']

end EncodeSet

/-- The percent sign and the two digits of a byte. -/
def percentByte (b : UInt8) : List Char :=
  let upper (n : Nat) : Char := (Digits.hexDigit n).toUpper
  ['%', upper (b.toNat / 16), upper (b.toNat % 16)]

/-- Encodes one character. -/
def percentEncodeChar (set : EncodeSet) (c : Char) : List Char :=
  if c.toNat < 0x80 && !set c then [c] else (Text.Utf8.encodeChar c).flatMap percentByte

def percentEncode (set : EncodeSet) (text : List Char) : List Char :=
  text.flatMap (percentEncodeChar set)

/-- The byte that two hexadecimal digits, given as bytes, stand for. -/
def byteOfDigits? (high low : UInt8) : Option UInt8 :=
  match Digits.hexValue? (Char.ofNat high.toNat), Digits.hexValue? (Char.ofNat low.toNat) with
  | some x, some y => some (x * 16 + y).toUInt8
  | _, _ => none

/-- Puts bytes in the place of their percent encodings. A percent sign that two hexadecimal digits
do not follow stands for itself. -/
def percentDecode : Bytes → Bytes
  | b :: high :: low :: tail =>
    match if b = 0x25 then byteOfDigits? high low else none with
    | some decoded => decoded :: percentDecode tail
    | none => b :: percentDecode (high :: low :: tail)
  | bytes => bytes

end FeatureFlags.Url
