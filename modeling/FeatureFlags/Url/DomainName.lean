import FeatureFlags.Text.Split
import FeatureFlags.Text.Utf8
import FeatureFlags.Unicode.Category
import FeatureFlags.Unicode.Direction
import FeatureFlags.Unicode.Joining
import FeatureFlags.Url.DomainMapping
import FeatureFlags.Url.Punycode

/-!
# Domain names

A domain name is a list of labels with dots between them.  In its ASCII form every label that is
not ASCII stands in its coded form behind `xn--`.  Names that differ only in case, or in the way in
which characters are composed, have the same ASCII form; a name that has none is no domain name.
-/

namespace FeatureFlags.Url

/-- Characters that no domain name contains. -/
def isForbiddenInDomain (n : Nat) : Bool :=
  n ≤ 0x20 || n = 0x7F ||
    ['%', '#', '/', ':', '<', '>', '?', '@', '[', '\\', ']', '^', '|'].any fun c => c.toNat = n

/-- The front of a label in coded form. -/
def codedFront : List Nat := [120, 110, 45, 45]

/-- Whether a character is a mark on the one before it. -/
def isMark (n : Nat) : Bool := (Unicode.category? "m").any (·.contains n)

/-- Whether a label may stand in a domain name. -/
def isLabel (label : List Nat) : Bool :=
  !codedFront.isPrefixOf label && !label.head?.any isMark && Unicode.joinersFit [] label
    && !label.any isForbiddenInDomain

/-- Whether a label that was coded is in the form in which it is to be coded. -/
def isCanonical (label : List Nat) : Bool :=
  label.any (0x80 ≤ ·) && label.all (fun n => mapCharacter? n = some [n])
    && Unicode.normalize label = label

/-- The label that is meant by a mapped label. -/
def meantLabel? (label : List Nat) : Option (List Nat) :=
  let meant :=
    if codedFront.isPrefixOf label then
      if label.all (· < 0x80) then
        (Punycode.decode? ((label.drop codedFront.length).map Char.ofNat)).filter isCanonical
      else none
    else some label
  meant.filter isLabel

/-- The ASCII form of a label. -/
def labelToAscii (label : List Nat) : List Char :=
  if label.all (· < 0x80) then label.map Char.ofNat
  else codedFront.map Char.ofNat ++ Punycode.encode label

/-- The ASCII form of a name of the given characters. -/
def nameToAscii? (name : List Nat) : Option (List Char) := do
  let mapped ← name.mapM mapCharacter?
  let normal := Unicode.normalize mapped.flatten
  let labels ← (Text.split (· = '.') (normal.map Char.ofNat)).mapM fun label =>
    meantLabel? (label.map Char.toNat)
  let isMixed := labels.any fun label => label.any fun n => (Unicode.direction n).isRightToLeft
  if isMixed && !labels.all Unicode.hasOneDirection then none
  else some (Text.join '.' (labels.map labelToAscii))

/-- The ASCII form of a domain name, whose characters are given by their bytes. -/
def domainToAscii? (bytes : Text.Utf8.Bytes) : Option (List Char) :=
  (Text.Utf8.decode? bytes).bind fun name => nameToAscii? (name.map Char.toNat)

end FeatureFlags.Url
