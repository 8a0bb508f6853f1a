import FeatureFlags.Attribute
import FeatureFlags.Experiment

/-!
# Who is reached

A user is hashed by the text of one attribute.  Filters keep users out whose hash falls into none
of their ranges; a rollout lets in those whose hash falls into its range or does not exceed its
coverage.  A user whose attribute has no text cannot be hashed and is kept out by both.
-/

namespace FeatureFlags

open Number (Arithmetic)

/-- The attribute a user is hashed by, and its text. -/
structure HashIdentity where
  name : String
  value : String
deriving DecidableEq, Repr

/-- The text by which an attribute identifies a user; empty if it does not. -/
def Attributes.hashText (attributes : Attributes) (name : String) : String :=
  match Dictionary.get? attributes name with
  | some value => value.hashText
  | none => ""

namespace HashIdentity

/-- The identity of a user by an attribute, or by the fallback attribute if only that one has a
text. -/
def resolve (attributes : Attributes) (preferred fallback : Option String) : HashIdentity :=
  let name := preferred.getD Experiment.defaultHashAttribute
  let primary : HashIdentity := ⟨name, attributes.hashText name⟩
  match fallback with
  | some other =>
    if primary.value = "" && attributes.hashText other ≠ "" then
      ⟨other, attributes.hashText other⟩
    else primary
  | none => primary

/-- Whether the user cannot be hashed. -/
def isEmpty (identity : HashIdentity) : Bool := identity.value = ""

end HashIdentity

/-- The hash version of filters that name none. -/
def defaultFilterHashVersion : Nat := 2

/-- Whether a filter lets a user through. -/
def Filter.admits (arithmetic : Arithmetic) (filter : Filter) (attributes : Attributes) : Bool :=
  let identity := HashIdentity.resolve attributes filter.hashAttribute none
  if identity.isEmpty then false
  else
    match bucketHash arithmetic filter.seed identity.value
        (filter.hashVersion.getD defaultFilterHashVersion) with
    | some n => filter.ranges.any (·.contains n)
    | none => false

/-- Whether some filter keeps a user out. -/
def isFilteredOut (arithmetic : Arithmetic) (filters : List Filter) (attributes : Attributes) :
    Bool :=
  filters.any fun filter => !filter.admits arithmetic attributes

/-- A gradual rollout of a forced value. -/
structure Rollout where
  seed : String
  hashAttribute : Option String
  fallbackAttribute : Option String
  hashVersion : Option Nat
  range : Option BucketRange
  coverage : Option Number

namespace Rollout

/-- Whether a hash lies in the rollout; the range takes precedence over the coverage. -/
def reaches (rollout : Rollout) (n : Number) : Bool :=
  match rollout.range, rollout.coverage with
  | some range, _ => range.contains n
  | none, some coverage => Number.le n coverage
  | none, none => true

/-- Whether a user is part of the rollout. A rollout without range and coverage is for everyone. -/
def includes (arithmetic : Arithmetic) (rollout : Rollout) (attributes : Attributes) : Bool :=
  if rollout.range.isNone && rollout.coverage.isNone then true
  else
    let identity :=
      HashIdentity.resolve attributes rollout.hashAttribute rollout.fallbackAttribute
    if identity.isEmpty then false
    else
      match bucketHash arithmetic rollout.seed identity.value (rollout.hashVersion.getD 1) with
      | some n => rollout.reaches n
      | none => false

end Rollout

end FeatureFlags
