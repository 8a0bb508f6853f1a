import FeatureFlags.Pattern.Expression

/-!
# Matching

A text of `n` characters has `n + 1` places, from before its first to behind its last character.  A
set of places is the number whose binary digits tell its members.  What an expression means is the
function `ends` from sets of places to sets of places: where a match may end that begins at one of
the given places.  An expression matches within a text if a match that begins anywhere ends
somewhere.
-/

namespace FeatureFlags.Pattern

/-- A set of places. -/
abbrev Places := Nat

/-- The set of the places at which a list of truth values is true. -/
def placesWhere : List Bool → Places
  | [] => 0
  | holds :: rest => 2 * placesWhere rest + (if holds then 1 else 0)

/-- The characters before and after each place of a text. -/
def neighbours (text : List Char) : List (Option Char × Option Char) :=
  (none :: text.map some).zip (text.map some ++ [none])

/-- Applies a function a number of times, or until it changes nothing more. -/
def iterate (f : Places → Places) : Nat → Places → Places
  | 0, places => places
  | count + 1, places =>
    let next := f places
    if next = places then places else iterate f count next

/-- Adds what a function leads to a number of times, or until that adds nothing more. -/
def grow (f : Places → Places) : Nat → Places → Places
  | 0, places => places
  | count + 1, places =>
    let next := places ||| f places
    if next = places then places else grow f count next

namespace Expression

/-- The places where a match may end that begins at one of the given places. -/
def ends (text : List Char) : Expression → Places → Places
  | empty, places => places
  | set characters, places =>
    (places &&& placesWhere (text.map fun c => characters.contains c.toNat)) <<< 1
  | place kind, places =>
    places &&& placesWhere ((neighbours text).map fun (before, after) => kind.holds before after)
  | seq first second, places => ends text second (ends text first places)
  | either first second, places => ends text first places ||| ends text second places
  | times body min max, places =>
    let optional := match max with
      | some max => max - min
      | none => text.length + 1
    grow (ends text body) optional (iterate (ends text body) min places)

/-- Whether there is a match anywhere in a text. -/
def isFoundIn (expression : Expression) (text : List Char) : Bool :=
  expression.ends text (Nat.pow 2 (text.length + 1) - 1) ≠ 0

end Expression

end FeatureFlags.Pattern
