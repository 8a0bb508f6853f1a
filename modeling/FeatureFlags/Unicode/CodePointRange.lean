import FeatureFlags.Unicode.CodePointSet

/-!
# Ranges of characters

Every set of characters is a list of ranges in ascending order with a gap between any two of them.
-/

namespace FeatureFlags.Unicode

/-- Code points end here. -/
def lastCodePoint : Nat := 0x10FFFF

/-- Ranges in ascending order of their first characters, joined where they meet or overlap. -/
def joinRanges : List (Nat × Nat) → List (Nat × Nat)
  | [] => []
  | range :: rest => joinFrom range rest
where
  /-- The ranges that begin with the given one, which grows as long as others reach into it. -/
  joinFrom (current : Nat × Nat) : List (Nat × Nat) → List (Nat × Nat)
    | [] => [current]
    | next :: rest =>
      if next.1 ≤ current.2 + 1 then joinFrom (current.1, max current.2 next.2) rest
      else current :: joinFrom next rest

/-- The ranges of the characters in any of some ranges. -/
def normalRanges (ranges : List (Nat × Nat)) : List (Nat × Nat) :=
  joinRanges ((ranges.filter fun range => range.1 ≤ range.2).mergeSort fun a b => a.1 ≤ b.1)

/-- The ranges between some ranges, from a character on. -/
def gapsFrom (start : Nat) : List (Nat × Nat) → List (Nat × Nat)
  | [] => if start ≤ lastCodePoint then [(start, lastCodePoint)] else []
  | range :: rest =>
    if start < range.1 then (start, range.1 - 1) :: gapsFrom (range.2 + 1) rest
    else gapsFrom (range.2 + 1) rest

/-- The ranges of the characters in both of two lists of ranges. -/
def commonRanges (a b : List (Nat × Nat)) : List (Nat × Nat) :=
  gapsFrom 0 (normalRanges (gapsFrom 0 a ++ gapsFrom 0 b))

def inRanges (ranges : List (Nat × Nat)) (n : Nat) : Bool :=
  ranges.any fun range => range.1 ≤ n && n ≤ range.2

/-- The characters that do not fold to themselves, each with the one it folds to. -/
def foldPairs : List (Nat × Nat) :=
  foldRuns.flatMap fun run =>
    (List.range (run.more + 1)).map fun i =>
      let n := run.first + i * run.stride
      (n, ((n : Int) + run.offset).toNat)

/-- The case variants of the characters of some ranges. -/
def variantsOf (ranges : List (Nat × Nat)) : List Nat :=
  let targets := foldPairs.filterMap fun (n, target) =>
    if inRanges ranges n || inRanges ranges target then some target else none
  let isTarget := inRanges (normalRanges (targets.map fun n => (n, n)))
  targets ++ foldPairs.filterMap fun (n, target) => if isTarget target then some n else none

/-- The case variants among ASCII letters of the characters of some ranges. -/
def asciiVariantsOf (ranges : List (Nat × Nat)) : List Nat :=
  (List.range 128).filter fun n => (asciiCaseVariants n).any (inRanges ranges)

/-- The ranges of a set, in ascending order. -/
def CodePointSet.toRanges : CodePointSet → List (Nat × Nat)
  | range first last => normalRanges [(first, last)]
  | ranges items => normalRanges items
  | union a b => normalRanges (a.toRanges ++ b.toRanges)
  | intersection a b => commonRanges a.toRanges b.toRanges
  | difference a b => commonRanges a.toRanges (gapsFrom 0 b.toRanges)
  | complement a => gapsFrom 0 a.toRanges
  | caseClosure a =>
    let found := a.toRanges
    normalRanges (found ++ (variantsOf found).map fun n => (n, n))
  | asciiCaseClosure a =>
    let found := a.toRanges
    normalRanges (found ++ (asciiVariantsOf found).map fun n => (n, n))

end FeatureFlags.Unicode
