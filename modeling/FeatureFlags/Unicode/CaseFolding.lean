import FeatureFlags.Unicode.Coding

/-!
# Case folding

Simple case folding maps a character to the one that stands for all its case variants.  Two
characters are variants of each other if they fold to the same character.
-/

namespace FeatureFlags.Unicode

/-- Characters at equal distances that are folded by the same offset. -/
structure FoldRun where
  first : Nat
  /-- The number of characters after the first. -/
  more : Nat
  /-- The distance from one to the next. -/
  stride : Nat
  offset : Int
deriving DecidableEq, Repr

namespace FoldRun

def contains (run : FoldRun) (codePoint : Int) : Bool :=
  run.first ≤ codePoint && codePoint ≤ run.first + run.more * run.stride
    && (codePoint - run.first) % run.stride = 0

end FoldRun

/-- The runs behind a number, of which each begins at a distance from the one before. -/
def foldRunsAfter (start : Nat) : List Nat → List FoldRun
  | gap :: more :: stride :: offset :: rest =>
    ⟨start + gap, more, stride, ofZigzag offset⟩ :: foldRunsAfter (start + gap) rest
  | _ => []

/-- The runs of all characters that do not fold to themselves. -/
def foldCode : String :=
  "X3P1X2YN01Wo0BM1X2O61X2W9N22WJ2227722HM22WF01cO1222601m8201iH1122401i91012211i72012301a3101i1
   101i31012201i7101iB201iJ101iF1012401iJ101iN201iP1222601j21012201j23012201j21012211j02122401j4
   10124012801410122014101220141822J822J0141122401b7101YI1J22W901dB2822O01rjE1012201fF101rj83012
   201hH101ZE101ZI1422d701cFWC1226012901cF701XE221XC401Z4211Z23G1X2I81X2W0012D01G101WS101WI401T1
   01WC2B22O01YE101Y2301YQ101Z32012201D1012321dB3F1a5GW01X2XIG22WBQ22WN01U1622FWG22Y4W61Y3YWDW61
   kYKW801kYK601kYKv551FXdE01hyC101hyA101hxN111hxJ201hxL101hx7101hvL101Xgh98WB1bd1WE21bd1fDXC22a
   001YM301kv82WG22YB71FG51FG71FG71FG51FH32FF71FW171FG71FG71FG11F211ZN201H201jxNA31aG401HC11F211
   bDE11F211c6201DC11d7211d3201HeJ01koT401miP101mb0701WPWFF1W1W4012vDP1WLWy6WG1Y3Y3012201rg2101c
   y1101rf13222601riE101rgE101riK101riI20123012911rkM2WI22YE1227012WWeNM22X2D22a7622GU22X9122401
   XglE1422D012201XuzM31226922K01XvWG101XvX7101XvWU101XvWA101XvWG201Xuy9101XuzQ101XuyF101WxR1722
   G01Y2101XvWE101XgoP112290126122W0012xNXH1XnwAre4P1X2We7W81XIaLW41XIb6A1XGCE1XGG61XG811XGWv5WJ
   1Z4Yc4W01X2ru3W01X2WWqLW21X6"

def foldRuns : List FoldRun := foldRunsAfter 0 (decodeNumbers foldCode)

/-- The character that stands for a character's case variants. -/
def simpleFold (codePoint : Nat) : Nat :=
  match foldRuns.find? (·.contains codePoint) with
  | some run => (codePoint + run.offset).toNat
  | none => codePoint

/-- All characters that fold to the given one, which is first. -/
def foldingTo (target : Nat) : List Nat :=
  target :: foldRuns.filterMap fun run =>
    if run.contains (target - run.offset) then some (target - run.offset).toNat else none

/-- The case variants of a character, itself among them. -/
def caseVariants (codePoint : Nat) : List Nat := foldingTo (simpleFold codePoint)

end FeatureFlags.Unicode
