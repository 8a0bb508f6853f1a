import FeatureFlags.Text.Digits
import FeatureFlags.Text.Split

/-!
# Versions as sortable text

`paddedVersion` spells a version so that versions compare as plain text: a leading `v` and
everything from the first `+` on are dropped, the parts between dots and hyphens are joined by
hyphens, numbers among them are filled up with blanks to five characters, and a version of exactly
three parts gets the part `~`, so that a release comes after its prereleases.
-/

namespace FeatureFlags.Version

open Text

/-- Drops a leading `v`. -/
def withoutMark : List Char → List Char
  | 'v' :: rest => rest
  | text => text

/-- Drops everything from the first `+` on. -/
def withoutBuild (text : List Char) : List Char :=
  match splitOnce? (· = '+') text with
  | some (version, _) => version
  | none => text

/-- Fills a number up with blanks on the left to five characters. -/
def padPart (part : List Char) : List Char :=
  if !part.isEmpty && part.all Digits.isDigit then
    List.replicate (5 - part.length) ' ' ++ part
  else part

/-- The parts of a version, with the mark of a release. -/
def parts (text : List Char) : List (List Char) :=
  let found := split (fun c => c = '-' || c = '.') (withoutBuild (withoutMark text))
  if found.length = 3 then found ++ [['~']] else found

/-- The text by which a version is ordered. -/
def padded (text : List Char) : List Char := join '-' ((parts text).map padPart)

/-- The text by which a version is ordered. -/
def paddedVersion (version : String) : String := String.ofList (padded version.toList)

end FeatureFlags.Version
