import FeatureFlags.Json.Record
import FeatureFlags.Number.Arithmetic
import FeatureFlags.Text.Digits
import FeatureFlags.Text.Utf16

/-!
# Hashing users into buckets

A user is hashed to a number in `[0, 1)`, and the variations of an experiment own half-open ranges
of that interval.  Everything here is a function of its arguments alone, which is what keeps a user
in one variation on every device.

The arithmetic is a parameter: doubles when the library runs, exact rationals when its results are
reasoned about.
-/

namespace FeatureFlags

open Number (Arithmetic)

/-- A half-open range `[start, stop)` of the hash interval. -/
structure BucketRange where
  start : Number
  stop : Number
deriving DecidableEq, Repr

namespace BucketRange

def contains (range : BucketRange) (x : Number) : Bool :=
  Number.le range.start x && Number.lt x range.stop

def width (arithmetic : Arithmetic) (range : BucketRange) : Number :=
  arithmetic.sub range.stop range.start

/-- Equality of ranges as intervals. -/
def same (a b : BucketRange) : Bool :=
  Number.equals a.start b.start && Number.equals a.stop b.stop

/-- Reads `[start, stop]`. -/
def decode : Json.Decoder BucketRange := fun draft =>
  (Json.Decoder.pair Json.Decoder.number Json.Decoder.number draft).map fun (start, stop) =>
    ⟨start, stop⟩

def toJson (range : BucketRange) : Json :=
  .array [Json.ofNumber range.start, Json.ofNumber range.stop]

end BucketRange

/-- A slice of the hash interval that experiments with the same identifier share. -/
structure Namespace where
  id : String
  range : BucketRange
deriving DecidableEq, Repr

namespace Namespace

def same (a b : Namespace) : Bool := a.id = b.id && a.range.same b.range

/-- Reads `[id, start, stop]`. -/
def decode : Json.Decoder Namespace
  | .array [id, start, stop] => do
    let id ← Json.Decoder.string id
    let start ← Json.Decoder.number start
    let stop ← Json.Decoder.number stop
    some ⟨id, ⟨start, stop⟩⟩
  | _ => none

def toJson (ns : Namespace) : Json :=
  .array [.string ns.id, Json.ofNumber ns.range.start, Json.ofNumber ns.range.stop]

end Namespace

/-! ## Hashing -/

/-- The 32-bit FNV-1a hash of a text's UTF-16 code units. -/
def fnv1a32 (text : List Char) : UInt32 :=
  (Text.Utf16.encode text).foldl (fun hash unit => (hash ^^^ unit.toUInt32) * 0x01000193) 0x811c9dc5

/-- `n % parts` as a fraction of `parts`. -/
def fractionOf (arithmetic : Arithmetic) (n : UInt32) (parts : Nat) : Number :=
  arithmetic.div (.ofNat (n.toNat % parts)) (.ofNat parts)

/-- Hashes `value` with `seed` into `[0, 1)`. Version 1 has steps of a thousandth, version 2 hashes
twice and has steps of a ten-thousandth; there is no other version. -/
def bucketHash (arithmetic : Arithmetic) (seed value : String) (version : Nat) : Option Number :=
  match version with
  | 1 => some (fractionOf arithmetic (fnv1a32 (value.toList ++ seed.toList)) 1000)
  | 2 =>
    let first := fnv1a32 (seed.toList ++ value.toList)
    some (fractionOf arithmetic (fnv1a32 (Text.Digits.write first.toNat)) 10000)
  | _ => none

/-- Whether a user with this hash value belongs to the slice of a namespace. -/
def Namespace.includes (arithmetic : Arithmetic) (ns : Namespace) (hashValue : String) : Bool :=
  match bucketHash arithmetic ("__" ++ ns.id) hashValue 1 with
  | some n => ns.range.contains n
  | none => false

/-! ## Ranges of variations -/

/-- Weights that are all equal and add up to one. -/
def equalWeights (arithmetic : Arithmetic) (count : Nat) : List Number :=
  List.replicate count (arithmetic.div (.ofNat 1) (.ofNat count))

/-- Rounds to four decimals, a half going away from zero. -/
def round4 (arithmetic : Arithmetic) (x : Number) : Number :=
  arithmetic.div (arithmetic.mul x (.ofNat 10000)).roundHalfAway (.ofNat 10000)

/-- A coverage brought into `[0, 1]`. -/
def clampCoverage (coverage : Number) : Number :=
  if coverage.isNan || Number.lt coverage (.ofNat 0) then .ofNat 0
  else if Number.lt (.ofNat 1) coverage then .ofNat 1
  else coverage

/-- The bounds between which the sum of usable weights lies. -/
def leastWeightSum (arithmetic : Arithmetic) : Number := arithmetic.round (99 / 100)

def greatestWeightSum (arithmetic : Arithmetic) : Number := arithmetic.round (101 / 100)

/-- The given weights if there is one for each variation and they add up to about one, equal
weights otherwise. -/
def effectiveWeights (arithmetic : Arithmetic) (count : Nat) (weights : Option (List Number)) :
    List Number :=
  match weights with
  | some given =>
    let total := arithmetic.sum given
    if given.length = count && Number.le (leastWeightSum arithmetic) total &&
        Number.le total (greatestWeightSum arithmetic) then given
    else equalWeights arithmetic count
  | none => equalWeights arithmetic count

/-- Consecutive ranges from `start` on: each begins where the weights before it end and is scaled
by the coverage. -/
def cumulativeRanges (arithmetic : Arithmetic) (coverage start : Number) :
    List Number → List BucketRange
  | [] => []
  | weight :: rest =>
    let stop := arithmetic.add start (arithmetic.mul coverage weight)
    ⟨round4 arithmetic start, round4 arithmetic stop⟩ ::
      cumulativeRanges arithmetic coverage (arithmetic.add start weight) rest

/-- One range for each variation. Users hashed outside every range take no part. -/
def bucketRanges (arithmetic : Arithmetic) (count : Nat) (coverage : Number)
    (weights : Option (List Number)) : List BucketRange :=
  cumulativeRanges arithmetic (clampCoverage coverage) (.ofNat 0)
    (effectiveWeights arithmetic count weights)

/-- The index of the first range that contains `x`. -/
def chooseVariation (x : Number) (ranges : List BucketRange) : Option Nat :=
  ranges.findIdx? (·.contains x)

end FeatureFlags
