import FeatureFlags.Unicode.CaseFolding

/-!
# Sets of characters

A set of characters is built from ranges of code points by the operations of set algebra, and by
adding the case variants of its characters.
-/

namespace FeatureFlags.Unicode

/-- A code point and, if it is an ASCII letter, the same letter in the other case. -/
def asciiCaseVariants (n : Nat) : List Nat :=
  if 65 ≤ n && n ≤ 90 then [n, n + 32] else if 97 ≤ n && n ≤ 122 then [n, n - 32] else [n]

inductive CodePointSet
  | range (first last : Nat)
  | ranges (items : List (Nat × Nat))
  | union (a b : CodePointSet)
  | intersection (a b : CodePointSet)
  /-- The characters of the first set that are not in the second. -/
  | difference (a b : CodePointSet)
  | complement (a : CodePointSet)
  /-- The characters of a set and their case variants. -/
  | caseClosure (a : CodePointSet)
  /-- The characters of a set and the ASCII letters that are case variants of some. -/
  | asciiCaseClosure (a : CodePointSet)
deriving DecidableEq, Repr

namespace CodePointSet

def contains : CodePointSet → Nat → Bool
  | range first last, n => first ≤ n && n ≤ last
  | ranges items, n => items.any fun item => item.1 ≤ n && n ≤ item.2
  | union a b, n => a.contains n || b.contains n
  | intersection a b, n => a.contains n && b.contains n
  | difference a b, n => a.contains n && !b.contains n
  | complement a, n => !a.contains n
  | caseClosure a, n => (caseVariants n).any a.contains
  | asciiCaseClosure a, n => (asciiCaseVariants n).any a.contains

def empty : CodePointSet := ranges []

/-- All characters. -/
def all : CodePointSet := range 0 0x10FFFF

def single (n : Nat) : CodePointSet := range n n

def unions (sets : List CodePointSet) : CodePointSet := sets.foldl union empty

/-- The set that a text codes. -/
def ofCode (code : String) : CodePointSet := ranges (rangesAfter 0 (decodeNumbers code))

/-- The characters that are in exactly one of two sets. -/
def symmetricDifference (a b : CodePointSet) : CodePointSet :=
  union (difference a b) (difference b a)

end CodePointSet

end FeatureFlags.Unicode
