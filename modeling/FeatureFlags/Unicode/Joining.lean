import FeatureFlags.Unicode.Normalization

/-!
# Joining

Two invisible characters make their neighbours join or keep them apart.  They may only stand where
that makes a difference: behind a sign that suppresses a vowel, or, to keep apart, between two
characters that would join.
-/

namespace FeatureFlags.Unicode

/-- The gaps between ranges of characters that join alike, the extents of the ranges, and how they
join: 1 with what follows, 2 with what precedes, 3 with both, 4 not at all but without coming
between others. -/
def joiningCode : String :=
  "aI04o5YI4dR64dFWD4104114114104XAA41043031320030020030020430320C31630020130K4E130040221220F30H
   20W63002013082003002003002013012102064254214134012A23203F040020040230420330020830020030020030
   020130020Q42020A30220E3012033002003012023012053W7A4PW13084904O34184124144I0204301200300209300
   20030220244031331020030125I23032430029740930221020130120530020E31N41W04WO04104474404364A14T04
   WR04434804K14Q04214WQ04414414224304U14304B14WQ04444114404K14M54104WR04204134804714B14U04WU04C
   04WJ04304WO04124524134714B14T04WR04204604514K14S14WQ14434804K14T04XA04724104XS04264C74Y504284
   B64XB14R04104104WOD41441145A41W44904Y934154114214P14424G34D04214604F04rL24zG24T14U14U14X21416
   48042A4904WA03324104GXQ3C140W23004003YO24414904624c214204WR04164104104274694204WHU4WI34WH0414
   4104504W984C14W134214124WP04114304124WR74214ZS241C4164404604314bCX14lR04214Q44WI44554Y3W14Yb1
   24ZH04Y3W04mR34YE14WVh134194W114XI14dO04304404P14504JWI3001XJ14QH4D04W774PA4WF24WH04234214W80
   4X554214214C04804WG04WK04124214514104WB14804cL04204404qXT04sOF4GF4bL04d124lH04c904ZP44WrR2411
   4534W924404Z443002102112201042033001043002023002202014433002ZK0300200302202300201300200301200
   3002N32013fR010W13002003034hF14XI24WH230020G31A4023002R330120B3034WB0311302210301201300201310
   3012003402003001WM04WNE4WA04214A24WI34214704WU24W544174X004C14WL84A34204Y224204114604204a2043
   74L14WQ14304W664344b974224104N04XM54104414114cL34614114R14XN74204114YD04104254104Y824234144dB
   84114d814104404ZK34214404W194W954234804954224WFC4114i364154104XKL4264114114YT54304114164104XA
   14304104g614B14WL44504104amPG46E4jlS44WS64WXP04X134XJ04piH14134ZwJWE42M4mH249F4264U34ZO24XWQW
   N44WI4804E04M441E4WhR641G4264114144Y704a564h304WU34lC34WW064WAX53074vnh904UY24Z4cM4"

def joiningNumbers : List (Nat × Nat × Nat) := classRangesAfter 0 (decodeNumbers joiningCode)

def joining (n : Nat) : Nat := classIn joiningNumbers n

def isTransparent (n : Nat) : Bool := joining n = 4

def joinsNext (n : Nat) : Bool := joining n = 1 || joining n = 3

def joinsPrevious (n : Nat) : Bool := joining n = 2 || joining n = 3

def nonJoiner : Nat := 0x200C

def joiner : Nat := 0x200D

/-- Signs that suppress the vowel of a consonant. -/
def isVowelKiller (n : Nat) : Bool := combiningClass n = 9

/-- Whether the invisible characters of a label stand where they may; the text before the present
place is given with its last character first. -/
def joinersFit (before : List Nat) : List Nat → Bool
  | [] => true
  | n :: rest =>
    let behindKiller := before.head?.any isVowelKiller
    let between :=
      (before.find? (!isTransparent ·)).any joinsNext &&
        (rest.find? (!isTransparent ·)).any joinsPrevious
    (if n = joiner then behindKiller else if n = nonJoiner then behindKiller || between else true)
      && joinersFit (n :: before) rest

end FeatureFlags.Unicode
