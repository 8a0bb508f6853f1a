/-!
# Splitting text at separators

A text with `n` separators has `n + 1` parts, some of which may be empty.
-/

namespace FeatureFlags.Text

/-- The parts of a text between the characters that satisfy `isSeparator`. -/
def split (isSeparator : Char → Bool) : List Char → List (List Char)
  | [] => [[]]
  | c :: rest =>
    if isSeparator c then [] :: split isSeparator rest
    else
      match split isSeparator rest with
      | part :: parts => (c :: part) :: parts
      | [] => [[c]]

/-- The text before the first character that satisfies `isSeparator`, and the text behind it. -/
def splitOnce? (isSeparator : Char → Bool) : List Char → Option (List Char × List Char)
  | [] => none
  | c :: rest =>
    if isSeparator c then some ([], rest)
    else (splitOnce? isSeparator rest).map fun (before, after) => (c :: before, after)

/-- The parts with `separator` between them. -/
def join (separator : Char) : List (List Char) → List Char
  | [] => []
  | [part] => part
  | part :: next :: rest => part ++ separator :: join separator (next :: rest)

/-- A character behind the separator, or one that is no separator, does not move the place
where a text is split. -/
theorem splitOnce?_concat {isSeparator : Char → Bool} {c : Char} (hc : isSeparator c = false)
    (text : List Char) :
    splitOnce? isSeparator (text ++ [c]) =
      (splitOnce? isSeparator text).map fun (before, after) => (before, after ++ [c]) := by
  induction text with
  | nil => simp [splitOnce?, hc]
  | cons first rest ih =>
    simp only [List.cons_append, splitOnce?, ih]
    split
    · rfl
    · cases splitOnce? isSeparator rest <;> rfl

theorem split_ne_nil (isSeparator : Char → Bool) (text : List Char) :
    split isSeparator text ≠ [] := by
  cases text with
  | nil => simp [split]
  | cons c rest =>
    simp only [split]
    split
    · simp
    · split <;> simp

end FeatureFlags.Text
