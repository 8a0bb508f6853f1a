import FeatureFlags.Unicode.Normalization

/-!
# Directions

The class of a character that decides in which direction the text around it runs, and the rule for
labels that contain text from right to left: they run in one direction, begin and end with
characters that say which, and do not mix the two kinds of digits.
-/

namespace FeatureFlags.Unicode

inductive Direction
  | left
  | right
  /-- A letter of an Arabic script. -/
  | arabicLetter
  | arabicNumber
  | europeanNumber
  | europeanSeparator
  | commonSeparator
  | europeanTerminator
  | neutral
  | boundaryNeutral
  /-- A mark, which has the direction of what it stands on. -/
  | mark
  /-- A character that no label may contain next to text from right to left. -/
  | other
deriving DecidableEq, Repr

/-- The directions in the order of their numbers in the table. -/
def Direction.ofNumber : Nat → Direction
  | 0 => left
  | 1 => right
  | 2 => arabicLetter
  | 3 => arabicNumber
  | 4 => europeanNumber
  | 5 => europeanSeparator
  | 6 => commonSeparator
  | 7 => europeanTerminator
  | 8 => neutral
  | 9 => boundaryNeutral
  | 10 => mark
  | _ => other

/-- The gaps between ranges of characters of one direction, the extents of the ranges, and the
numbers of the directions; characters outside run from left to right. -/
def directionCode : String :=
  "08900B00B00B00B00B0D902B00B00B018027048005006005016094006058Q58Q3805900B0P9006008037038118009
   018017014008128004148N08W008jF187D82D85881G80YIA418808518108YH08ZG6Ad8082180070010WDA00100A00
   101A00101A00100A0WO10530180020170020060020180AA0WG20KA09300701302200A0Y7206A00300805A01201A00
   803A0120940M200A0T20QA0XS20AA0E20WB108A01103802100A0N103A00108A00102A00104A0WB102A0310WG20130
   5207A0WA20NA0030W0AWO0A10A47A40A36AA1AT0AWR0A43A80AK1AE1770720A21AWQ0A41A41A22A30AU1A30AB1AWQ
   0A44A11A40AK1AD0785A10AWR0A20A13A80A71AB1AU0AWU0AC0AW65800700850A30AWO0A12A52A13A71AB1AK6820A
   WR0AF1AK1AS1AWQ1A43A80AK1AT0AXA0A72A10AXS0A26A40777AY50A28AB6AXB1AR0A10A10A038WKDA14A11A5AA1W
   4A90AY93A15A11A21AP1A42AG3AD0A21A60AF0ArL2AWH98Y908pJ0BQ18YO2AT1AU1AU1AX21A16A80A2AA70710AI98
   6A802A00900AYO1AW30AYP2A41A90A62A408318ZSW28N1A20AWR0A16A10A10A27A69A20AWHUAWI3AWH0A14A10A50A
   W98AC1AW13A21A12AWP0A11A30A12AWR7A21AZS2A1CA16A40A60A31AbCX1AjB08128B28D28D28D181AB0291010N80
   0B00B00B00B00B00B00B0060470E80060P800B05900B00B00B00B059004354015028194015028HWG70W1AF1813811
   8A08128558108108108407B184485382F8WA284Z580050070eA8X7P81ZK8PA8LW880J4XGjF81fS8d8p782W081YB8c
   C5842A768Z30AY3W0A0Y08W3P81XQ8CbR8QB840B0383O893A208518528XR1A018308XS08bAW48WQ18WIF8S28WJE8C
   38aC38Y618W008bvKX18sWQWN8fG28Y23A00809A018U1AXI1AEW28Y908YS0A30A40AP1A13800AB17WR38XE1AQHAD0
   AW77APAAWF2AWH0A23A21AW80AX55A21A21AC0A80AWG0AWK0A12A21A51A10AWB1A80AYM18YS0A20A40AqXS0100A09
   10050W610kS20H80Z220080W090C20280FA0986FA0W080060080061080060880070180150281080170084ZI200911
   8027048005006005016094006058Q58QA8YT17028017168189048019d908X0XE83C8308XU0Ac90A0Q4YT4AWbAe710
   080c7102A00101A04103A0W8102A03100A0a9101A0XJ10680jD10W4203A0720930520e810U30WC101A0I10WT202A0
   WG10L20AA0U20H103A0YS110AWNEABJ8A0A21AA2AWI3A21A70AWU2AW54A17AX00AC1AWL8AA3A20AY22A20A11A60A2
   0Aa20A37AL1AWQ1A30AW66A34Ab97A22A10AN0AXM5A10A41A11AcL3A61A11AR1AXN7A20A11AW0C8X00A10A25A10AY
   82A23A14AdB8A11Ad81A10A40AZK3A21A40AW15A21AW95A23A80A95A22AWFCA11Ai36A15AXMLA26A11A11AYT5A30A
   11A16A10AXA1A30A10Ag61AB1AWL4A50A10AZM780370G8ahL0A6EAjlS4AWS6AWXP0AX13AXH0810ApiH1A139ZwJWEA
   2MAmH2A97907A26AU3AWS18LX3802A008b0XO8y108WQ08WQ08WQ08WQ08AWI4lGWNA4WIA80AE0AM4A1EAWhR6A1GA26
   A11A14AY70Aa56Ah30AWU3AF07kR3Au9bL106A0YF106A0uT10XH20X110XH20aK10cM20180D20d710WC84Y68CE82E8
   1E81W58AA4048W008WR58WU08aN58ZUWVM84G83C83YP84Y186B8408FB84WO88986W888T8218XGfT8CD82C83887WE8
   1688D84887887ZM81WN8W694WX519Xbb019Xbb019Xbb019Xbb019Xbb019Xbb019Xbb019Xbb019Xbb019Xbb019Xbb0
   19Xbb0d990cMA0Ys39XWxR19Xbb019Xbb019"

def directionNumbers : List (Nat × Nat × Nat) := classRangesAfter 0 (decodeNumbers directionCode)

def direction (n : Nat) : Direction := Direction.ofNumber (classIn directionNumbers n)

/-- Whether a character makes the text around it run from right to left. -/
def Direction.isRightToLeft (d : Direction) : Bool :=
  d = right || d = arabicLetter || d = arabicNumber

/-- Directions that labels of both kinds may contain. -/
def Direction.isCommon (d : Direction) : Bool :=
  [europeanNumber, europeanSeparator, commonSeparator, europeanTerminator, neutral,
    boundaryNeutral, mark].contains d

/-- The rule for a label from right to left. -/
def isRightToLeftLabel (directions : List Direction) (last : Option Direction) : Bool :=
  directions.all (fun d => d.isRightToLeft || d.isCommon)
    && last.any (fun d => d.isRightToLeft || d = .europeanNumber)
    && !(directions.contains .europeanNumber && directions.contains .arabicNumber)

/-- The rule for a label from left to right. -/
def isLeftToRightLabel (directions : List Direction) (last : Option Direction) : Bool :=
  directions.all (fun d => d = .left || d.isCommon)
    && last.any (fun d => d = .left || d = .europeanNumber)

/-- The rule for a label of a name that contains text from right to left. -/
def hasOneDirection (label : List Nat) : Bool :=
  let directions := label.map direction
  let last := (directions.reverse.dropWhile (· = .mark)).head?
  match directions.head? with
  | none => true
  | some .left => isLeftToRightLabel directions last
  | some .right => isRightToLeftLabel directions last
  | some .arabicLetter => isRightToLeftLabel directions last
  | some _ => false

end FeatureFlags.Unicode
