import FeatureFlags.Unicode.Coding

/-!
# Composed normal form

Characters with marks can be written as one character or as several.  In the composed normal form
every character is first replaced by its canonical decomposition, marks that follow one another are
put into the order of their combining classes, and then each character is joined with the marks
behind it as far as there is one character for them.
-/

namespace FeatureFlags.Unicode

/-! ## Combining classes -/

/-- The gaps between ranges of characters of one class, the extents of the ranges, and the classes;
characters outside have class zero. -/
def combiningClassCode : String :=
  "tOKcD00cF03c300cF00bU04c301bG03c301bG0Ac304103c307cD00cN00cD02c302cD01c312cD03c300cD00cF01c30
   0cD00cG01cH00cG01cH00cG0CcDdR4cDdH0c303cD00c302cD00c500c305cD05c301cD00c301cD00c500cB00cD00A0
   0B00C00D00E00F00G00H00I01J00K00L00M10N10O00P10cD00c310IXA7cD00U00W000W1WH0R00S00T00U00W000W10
   0W200W301cD01c304cD00c301cD00c3G0W4Y86cD23cD00c300cD21cD10c301cD00c3W40W5U0cD00c301cD00c301cD
   02c300cD01c300cD00c302cD00c300cD00c300cD00c300cD00c301cDa56cD00c300cD90c3O3cD18cD12cD14cDWC2c
   3WT0cD02c303cDWB4cD04c30DcD10c301cD00c301cD00c302cD02c300R00S00T02cD00c301cD01c304cDWT07G0930
   cD00c301cDYA07G09WH0cDWU07G09YH07G09YH07G09Z309YH07G0970XM00XTY807G09YG19G09Z009YG1YA009D3YEY
   F1YP009D3YTXE1c3R0c310c310bUWO0Z500Z610Z853Z620Z611cD00911cDX00c3YJ07119XK0c3s62cDzI19U09a209
   A0cDbH0cBZJ0c500cD00c3c20cD00c3X909K7cD20c3WH4cD05c301cD00c311c301cD01c304cD00c303cDY807F09W7
   0cD00c306cDWN19WR07B19X507ZS2cD10104c301cD03c300cD16140c360cD31cDbC1cD00c306cD00c301cD00cH00b
   S00c300bG0W5cD00cF01cB00c300c100cD00cG00c300cD00c3s71cD01103cD02101cD40cD31100cD00c300cD01103
   c300cDYb12cDZH09Y3W0cDmR0c100cB00cF00c501c7YC18WVh10cD49cDW11cDXI1cDdS09W609ZR09RHcDWQ2c3W609
   Y207C09cM0cD11cD00c321cD51cD10cDWL09cT09qXT0QtP6cD06c301cDWVC0c3c90c3ZP4cDWs80c310cDW90cD0010
   0c3409aA0cD00c3nF3cDhF1cDXI2c3X81c302cD00c300cD03c3WI0cD00c300cD00c3b609WA09E09WQ09007X72cDWH
   19X007XE09907YD09007aN07009XI17G09O6cD34cDbJ09307N0cDY609007d309007Z209YP09007YM09dL09007dA19
   407a109XL09I09XJ09iI09dA07119XJ09iM19pZT41WS6cDWd016pi501alH1bU02130c904bU87c324cD01c3U3cDZO2
   cDYpC6cD1GcD26cD11cD14cDY70cDa56cDh30cDWU3cDlC1cF00c300cDWW06c3YG5cD007"

/-- Ranges of characters and their classes. -/
def classRangesAfter (start : Nat) : List Nat → List (Nat × Nat × Nat)
  | gap :: extent :: value :: rest =>
    (start + gap, start + gap + extent, value) :: classRangesAfter (start + gap + extent + 1) rest
  | _ => []

/-- What a table of classes says of a character. -/
def classIn (table : List (Nat × Nat × Nat)) (n : Nat) : Nat :=
  ((table.find? fun (first, last, _) => first ≤ n && n ≤ last).map (·.2.2)).getD 0

def combiningClasses : List (Nat × Nat × Nat) :=
  classRangesAfter 0 (decodeNumbers combiningClassCode)

/-- The class that orders a mark among others; what is no such mark has class zero. -/
def combiningClass (n : Nat) : Nat := classIn combiningClasses n

/-! ## Decompositions -/

/-- A character that is equivalent to one or two others. -/
structure Decomposition where
  character : Nat
  first : Nat
  second : Option Nat
  /-- Whether composition gives the character back. -/
  isComposed : Bool
deriving DecidableEq, Repr

/-- Of each decomposition the distances of the character and of its first part from those before,
and the second part together with whether it is left alone by composition. -/
def decompositionCode : String :=
  "b6Z6WnH10WnJ10WnL10WnN10Wo210Wo624Wq214WnH10WnJ10WnL10Wo218WnH10WnJ10WnL10Wo22AWnN12WnH10WnJ1
   0WnL10WnN10Wo23CWnH10WnJ10WnL10Wo218WnJ3GWnH10WnJ10WnL10WnN10Wo210Wo624Wq214WnH10WnJ10WnL10Wo
   218WnH10WnJ10WnL10Wo22AWnN12WnH10WnJ10WnL10WnN10Wo23CWnH10WnJ10WnL10Wo218WnJ20Wo21YIWnP1X2WnP
   1X1WnT1X2WnT1X1Wq41X2Wq41WSWnJ1X2WnJ1X1WnL1X2WnL1X1Wo01X2Wo01X1WoA1X2WoA1WUWoA1X2WoA3WUWnP1X2
   WnP1X1WnT1X2WnT1X1Wo01X2Wo01X1Wq41X2Wq41X1WoA1X2WoA1WSWnL1X2WnL1X1WnT1X2WnT1X1Wo01X2Wo01X1Wq2
   1X2Wq21WUWnL1X2WnL3WUWnN1X2WnN1X1WnP1X2WnP1X1WnT1X2WnT1X1Wq41X2Wq41X1Wo042WnL1X2WnL1WUWq21X2W
   q22WUWnJ1X2WnJ1X1Wq21X2Wq21X1WoA1X2WoA5WSWnJ1X2WnJ1X1Wq21X2Wq21X1WoA1X2WoA4WUWnP1X2WnP1X1WnT1
   X2WnT1X1Wo81X2Wo83WQWnJ1X2WnJ1X1Wq21X2Wq21X1WoA1X2WoA1WUWnJ1X2WnJ1X1WnL1X2WnL1X1Wq21X2Wq21X1W
   oA1X2WoA1WUWq21X2Wq21X1WoA1X2WoA3WUWnN1X2WnN1X1WnP1X2WnP1X1WnT1X2WnT1X1Wo61X2Wo61X1Wo81X2Wo81
   X1Wq41X2Wq41WSWnL1X2WnL1WSWnL1X2WnL1X1Wo212WnJ1X2WnJ1X1Wo01X2Wo01X1WoA1X2WoAW3XNWp91X2Wp9EWKW
   p91X2Wp9TYAWoA1X2WoA1WGWoA1X2WoA1WKWoA1X2WoA1WKWoA1X2WoA1bKWnP1X2WnP1X1WnJ1X2WnJ1X1WoA1X2WoA1
   X1WnH1X2WnH2YIWnP1X2WnP1pOWnP12WnP1rNWnP1X2WnP3f7WoA1X2WoA1WOWoA1X2WoA1WOWq41X2Wq41tEWnP12WnP
   1YAWoA1j4WoA1WZIWoA4X7WnJ1X2WnJ3WIWnH1X2WnH1aJWnJ1X2WnJ1WUWnJ1X2WnJ1RWnJ1X2WnJ1gOWoG1X2WoG1X1
   WoK1X2WoK1WOWoG1X2WoG1X1WoK1X2WoK1WOWoG1X2WoG1X1WoK1X2WoK1WKWoG1X2WoG1X1WoK1X2WoK1WQWoG1X2WoG
   1X1WoK1X2WoK1WQWoG1X2WoG1X1WoK1X2WoK1X5Wq01X2Wq01WUWq01X2Wq03XPWoA1X2WoA7XFWo01X2Wo01WOWq21X2
   Wq21c9WnP1X2WnP1X3WnP1X2WnP1fLWo01X2Wo01xQWnP12WnP1z9WnP1X2WnPdLWfN11212W511LWnKWHa21AWf417c1
   WnJ1Wm2WnJ1Wl211WlBWnJ14WnJ14WnJ2CWnJ2CWnJ18WnJ1X4WnJQY4Wo21OWo21OWnJ18WnJ14WnJ14WnJ1W5WnJQW4
   Wo21OWo21BWnJ1CWnJ18WnJ5IWnJ10Wo2WDZAWnH10Wo223WnJ4PWo25W9WnJ13WnH1MWnTBLWnTW1X2WnTN5WnH10Wo2
   23WnJ4X8Wo25WOWnJ13WnH1MWnTOY5WoG12WoGXCb3WnT1X2WnTEXDWnT1X2WnT1X1Wo21X2Wo23WMWnT1X2WnT3fGWo2
   12Wo21hHWo21X2Wo21WUWo21X2Wo23WUWnP1X2WnP1X1Wo21X2Wo21WKWo21X2Wo23fUWo212Wo21h3Wo21X2Wo21XLWn
   P1X2WnP1X1Wo21X2Wo21X1Wo81X2Wo81WOWo21X2Wo23WOWo21X2Wo2eIzMYgE10YgG1X4YgG1X3YgI1X8YgGZUdUYgG2
   W8YgGHW3YgGo9WcIZxG8GZxG36ZxGW5WSZxH12ZxH12ZxH1AZxH1AZxH12ZxH1IZxH18ZxHYFePaaS10acGGXDaaP12aa
   P2QaaPXMdEaj23Caj2W4X5aj212aj21Aaj23Uaj2cHnAbW730azL10bW9GXDazI12azIWOc7beHWNYBbcT12bcT11beHZ
   0d8bmNYRcPbuT7EbuT10bv020btM18buTZ3d0cWM12cWM11cYAZIeFcfN20cg216cfN15ch3gGs9dgIAKdgI5AdgI5Adg
   I5AdgIDWMdgEAY5dc420dc81Z6dd122dd19Z7dd1IX4dgIAKdgI5AdgI5AdgI5AdgIDWMdgEYGeJdo7XwPatJjkB24jkB
   24jkB24jkB24jkB48jkBWAXKjkB24jkB34jkB12jkB26jkBrJjgUWpT1X2WpT1WUWo01X2Wo01X1WpP1X2WpP1X1WqM1X
   2WqM1bGWnJ1X2WnJ1fFWo01X2Wo01X1WpP1X2WpP1X1WqM1X2WqM1X1Wq21X2Wq21X1WqE1X2WqE1g7WnH12WnH11WnJ1
   2WnJ1i8WqE1X2WqE1X1WqK1X2WqK1y3WnT12WnT1WV4Wo01X2Wo01WUWnP1X2WnP1WUWo01X2Wo01X1WpP1X2WpP1X1Wo
   21X2Wo21X1Wq21X2Wq21X1WqG1X2WqG1WUWqK1X2WqK1bIWnJ1X2WnJ1fHWnJ1X2WnJ1X1WpP1X2WpP1X1WqM1X2WqM1W
   UWpP1X2WpP1kw0WnP12WnP1ky3WqM1X2WqM1X1WqE1X2WqE1WUWnJ1X2WnJ1X1Wo01X2Wo01X1WpP1X2WpP1WUWo01X2W
   o01X1WpP1X2WpP1X1WqM1X2WqM1X1WqE1X2WqE1bKWnJ1X2WnJ1X1Wo21X2Wo21aJWnH12WnH11WnJ12WnJ1l9WnJ1X2W
   nJ1X1Wo01X2Wo01WSWo01X2Wo01X1WpP1X2WpP1kxTWnP12WnP1lV1WqM1X2WqM1WUWo01X2Wo01X1WpP1X2WpP1jSWo0
   12Wo01AWo012Wo01kj1Wo012Wo01lVDWo01X2Wo01X1WpP1X2WpP1X1WqM1X2WqM1X1WqE1X2WqE1WUWpR1X2WpR1X1Wq
   K1X2WqK1X1WqE1X2WqE1kLWnJ12WnJ12Wo212Wo21mQWnN1X2WnN1X1WpP1X2WpP1WUWnH1X2WnH1X1WnJ1X2WnJ1X1Wo
   21X2Wo21X1Wo01X2Wo01X1WpP1X2WpP1WUWo01X2Wo01X1Wo21X2Wo21WUWo01X2Wo01WUWnL1X2WnL1X1WpP1X2WpP1X
   1WqM1X2WqM1W4WqM1OWo216Wo614Wo62lSWo05pFWpP1X2WpP1X1Wo41X2Wo41b8WnJ1X2WnJ1X1WnH1X2WnH1X1Wo41X
   2Wo41X1WnN1X2WnN1kv7WnL12WnL1kt6WnJ12WnJ11WnH12WnH11Wo412Wo411WnN12WnN1kt3WnT12WnT1laCWpP1X2W
   pP1X1Wo41X2Wo41X1WnN1X2WnN1bGWnJ1X2WnJ1X1WnH1X2WnH1X1Wo41X2Wo41X1WnN1X2WnN1kw8WnL12WnL1lbLWo4
   1X2Wo41X1WpP1X2WpP1WKWpP1X2WpP1X1Wo41X2Wo41bGWnJ1X2WnJ1X1WnH1X2WnH1X1Wo41X2Wo41X1WnN1X2WnN1kw
   SWnL12WnL1klQWnJ12WnJ11WnH12WnH11Wo412Wo411WnN12WnN11WpP12WpP1qCWpP1X2WpP1X1Wo41X2Wo41p8WnJ12
   WnJ11WnH12WnH11Wo412Wo411WnN12WnN11WpP12WpP1r3WnH1X2WnH1X1WpP1X2WpP1X1Wo41X2Wo41X1WnN1X2WnN7W
   r5WoO10WoQ1jm1WnH12WnH11WnJ12WnJ11WrP12WrP1jo4WoO10WoQ1joJWnH12WnH11WnJ12WnJ11WrP12WrP1jmAWoO
   10WoQ1jmPWnH12WnH11WnJ12WnJ3joSWoO10WoQ1jpCWnH12WnH11WnJ12WnJ3jn7WoO10WoQ1jnMWnH12WnH11WnJ12W
   nJ11WrP12WrP1jpPWoO10WoQ1jq9WnH12WnH11WnJ12WnJ11WrP12WrP1jo4WoO10WoQ1joJWnH12WnH11WnJ12WnJ11W
   rP12WrP1jqMWoO10WoQ1jr6WnH12WnH11WnJ12WnJ11WrP12WrP1joOWoO10WoQ1jp8WnH12WnH11WnJ12WnJ3jrBWoO1
   0WoQ1jrQWnH12WnH11WnJ12WnJ3jpDWoO10WoQ1jpSWnH12WnH11WnJ12WnJ11WrP12WrP2js0WoQ2jsHWnH20WnJ20Wr
   P1jq6WoO10WoQ1jqLWnH12WnH11WnJ12WnJ11WrP12WrP1jsOWoO10WoQ1jt8WnH12WnH11WnJ12WnJ11WrP12WrP1jsO
   WnH1911IWnH1F11KWnH1H11MWnH1J11W1WnH1Q11DWnH1G117WnH1A13jk5Ws012Ws012Ws012Ws012Ws012Ws012Ws01
   2Ws012Ws012Ws012Ws012Ws012Ws012Ws012Ws012Ws01W3Ws012Ws012Ws012Ws012Ws012Ws012Ws012Ws012Ws012W
   s012Ws012Ws012Ws012Ws012Ws012Ws01Y5Ws012Ws012Ws012Ws012Ws012Ws012Ws012Ws012Ws012Ws012Ws012Ws0
   12Ws012Ws012Ws012Ws01jt5WnT10WnP1jt8Ws01jt7Ws019Ws02AWrP1jxOWs01jzPWnT10WnP10WnH1L11MWs02XI13
   WoJWrP1lhKWs01jt3Ws01HWs02IWrP1jyDWs01kVIWnH1P11UWnH1R11SWs01kV1WnH10WnJ10WrP1jxPWnT10WnP1W3W
   nH1YM13XKWrP1W3WrP1Y4WnT10WnP10WnH1T12kZTWnH10WnJ10WrP1kW3WnT10WnP1CWnH1WM11W3WoO10WoQ18WrP1C
   WrP1XDWnT10WnP10WnH1WE11W7WoQ1Wn2WnH1Wl911WpS13lmPWs01jsEWs01AWs029WrP1kVBWs01kY1WnH1W611WRWn
   H1WK11WLWs01WmP13lq11121eEkY714WtI11cR1YImjJWr514Wr5J4Wr5W0YRWr518Wr513Wr5WMY5Wr55AWr536Wr5OW
   HWr524Wr5RWFWr53EWr534Wr526Wr5NnZ7Wr52naRWr5BW8Wr51nZJWr514Wr51nb0Wr512Wr53QWr512Wr536Wr512Wr
   576Wr512Wr53EWr512Wr536Wr512Wr5W4WNWr51CWr512Wr514Wr5WIY0Wr512Wr51W9Wr512Wr57X2Wr512Wr512Wr51
   2Wr5WTcY21121XWHXsCWr6WiSXwLuwK24uwK24uwK24uwK24uwK24uwK24uwK24uwK24uwK24uwK24uwK24uwK36uwK24
   uwK24uwK7EuwK10uwM26uwK10uwM26uwK10uwM26uwK10uwM26uwK10uwMNYCuwKAaJuwKESuwK24uwK24uwK24uwK24u
   wK24uwK24uwK24uwK24uwK24uwK24uwK24uwK36uwK24uwK24uwK7EuwK10uwM26uwK10uwM26uwK10uwM26uwK10uwM2
   6uwK10uwMNYCuwK3ZMuwK12uwK12uwK12uwK4MuwKWrdLWmoP11owF11qbT11WX411kyR11mgN11YW411WefG11011Wbi
   T11zY511WWYM11XV011ZoB11fwN11ZvE11Yn311tE11pG11ZWB11plL11Wp511WzP11WnR11drC11cVJ11ZlQ11WeaQ11
   XoN11hm311Yt311fqF11hsD11WYl911ex911gpD11Wx911pmI11llU11YfL11rVJ11Zi311YgE11Xz011kwG11WYt511W
   a611o111elJ11Yc211YvH11XmT11ZvA11YbD11aH11ZW311ZxU11Xd011Wg011oy511kL11Xb611YdN11dYH11bYJ11fj
   L11vo611YdF11koS11Xb011cl011YhP11foP11aiI11WXXU11WwE11ce411XVC11oT11cl911m111huL11WZyB11tg511
   tw011W011qjP11Wy011YeC11evP11auT11qq111YuS11mmO11WWgK11cdT11XbQ11fgB11WVH11ne811paP11qz011djQ
   11egP11lgP11Yx011hnQ11rW811Xj211lf011cXB11YhB11ljT11oZT11nrJ11aXG11lzS11lpD11ejF11poC11Wj311b
   611hY711fvS11XyB11ZjG11YrD11WXk111qF11XsN11XxC11Yp311aiQ11ZwF11kaS11Xl811XbU11YH11WenF11fs311
   XkF11oZ711vX311WpB11c711WgU11ao011WZF11WrL11XtO11XbO11WeU11cv111aiN11az311Wq211WYrP11e111WYM1
   1jy511ht011WVF11sgL11oB11Ww611ZgD11duH11Zq211ojS11ZeF11XoD11z411WdB11fiF11gP11ayQ11g311em411X
   lI11a911iD11Wcp711riT11htO11XpQ11xq611et411WcE11awU11a711ZzE11XfQ11ZZO11XgH11cv711bYT11dVQ11z
   gM11ugU11WaW611gZT11cN11XuJ11rC11XwJ11qL11WoM11XjM11jlU11WbtK11dxM11wvJ11Wbj211bwH11dyN11mr51
   1ugF11xE11YoM11bXS11np011Wai211WVB11ZiL11aZR11pA11rA11Xd011YtN11zM11aYC11Zz611W511Zs911Xr011W
   aW211joR11jaG11kuG11WjT11ed311dw511YW611WbL11yeR11YeE11fr611YtE11aF11sR11ac511WZG11jcN11WWdN1
   1wyE11vY011Y811brE11XbU11ivJ11ms711egK11YhS11qnB11YqF11cj911btL11rsG11cc511XhA13WgU12ckS13fyU
   11mrT11WxR11WeC11X611E11XM11kvP11ja611WnF12YgI12XnS13XtM11hM14Zc711Q11XQ11Xi311buU11YYI11Wbv6
   11p611bI11tG11WN11c111WbT11bO11bA11zE11bM11WzL11K11XbG11iL11XE11bE11WtH11eF11g911WW811XoL11fG
   11m111WbT11h611WWE11Xg711g511M11111G11C11E11Y311211gF11Z611pI11WaC11WB11YJ11oL11eF11WVF11e111
   011zQ11Xl011dK11sD11YJ11vE11YD11Wi811dC11Ym411nA11YR11yr411deWI11crZ013wpS11WwO11ZT11WVE11y71
   1YP11q311Y911WhH11ZJ11ZC11ZM11WeO11aN11eB11W111mD11hO11WyG11E11e911ZC11o911cJ11ZF11dK11XT11eD
   11Z811uP11aL11YF11lO11nE11fG11811YP11XbA11Z611u711vE11W011aJ11l811qL11YeO11XwS11cR11cT11q311e
   J11YD11jI11411g111W311WJ11aH11J11uH11WV911mF11h211jE11eR11q911hQ11WsG11f411WwE11yD11ZE11W111o
   511YL11XR11YF11511W211ZS11a711tK11Wa411p811o111j811XZE11bK11cD11dI11XA11O11Y311WkS11XhU11bsbH
   11B11ba111dpoM11Xh011X411eYhI11anR11nYN11dckF11ZQ1X6XowJYW72WJYWDBHYX210YX41ZbrKYX210YX41Zbt7
   YWD10YWF10YWN12YWN12YWN12YWN12YWN12YWN12YWN24YWN12YWN12YWN12YWN12YWN24YWN24YWN12YWN24YWN12YWN
   24YWN12YWN12YWN12YWN12YWN1WAYWH17YWT1KYWT1IYWTapRZnXUZqeC24ZqeCFKZqeCZ7e1ZqlD12ZqlDmDWYCZroT1
   0ZrqHgQsRZsiE10ZshP20ZsiKd4lEZsy812Zsy8xPWvHZuu4WnWMYaY5czyH12czyH1Eczz410czz610czz810czzA10c
   zzCXPaPczyH12czyH12czz412czz411czz612czz6XlgTbpiS11911I11cjqG11cjXU11a111Q11ZI11cN11X011a111W
   G11kVI11dVX211ckt911E11W111W711ckY511czhQ11kdL11XE11ckZO11ckZ311Q11WkT11WlF11I11ewz011ewuQ11S
   11kl811koS11M11XQ11A11kp811kuE11411WN11WD11M11211W311Y711G11I11WJ11K11411011011clr711cWe611kd
   411WB11cma311cmZ911C11WB11eP11bH11W111X211YN11aD11WL11ZA11W111X411011WB11W511G11U11qT11mG11mJ
   11hN11X811Xg211Yq011nH11XE11WJ11dB11fO11111cT11copO11col711A11U11W911G11Z411cpc611Z811cpXG11Y
   111O11a211e511nwO11S11obB11YF11011cpx311cpoF11WB11U11O11cqc311cqb911E11WsG11WqL11okT11ooU11S1
   1a911Y811crhB11crVI11crVN11cqxT11511W311bG11211pXJ11pZC11XO11WB11XQ11pd111dhnG11dhlP11pfU1161
   1611W911ezi811ezeR11csxI11011cad911nmS11011piE11dqm611uYE11dvY011I11plB11poD11Y911K11X611dO11
   pxL11WS11qVR11cuVE11ctx411dA11811411311XU11W911XA11R11M11Y111W911811WL11M11Z811aD11X811d011cu
   tU11cuv511Z511bU11WN11b811cuz611cuv511aU11WO11rY211rkF11WB11X011XD11rhB11rvA11WR11cwfI11cwXR1
   1mR11g811sV811sZT11sb011X911hXI11611ghN11bD11iwG11WWhJ11nt211811C11YT11L11cxeK11dpsU11su411cG
   11i711Y911cxVR11cxV811c411kP11tbR11teR11b811ZI11h811cxX311cwyO11tx911uWQ11cxwI11cxt811uWJ11uY
   I11XS11WN11211cyn011krA11kyC11cykG11cziI11czb811S11bH11g911XI11YL11YE11XI11U11Q11cyzQ11cza111
   l611Z211vc211vi311711czc411czpC11t211czaE11Y311czXQ11cD11WM11511vxB11wVD11Y911B11YF11byk811by
   aD11cztT11czo911dVeF11dVVD11Q11WN11dWaS11dWXO11WB11dWpR11jC11dWpE11W311xa611xbS11xb311011xlI1
   1WB11WB11W911ZE11xnJ11xtE11dXz811dXxH11dYYG11dYV811cgYT11cftI11dZeF11WF11e111eXj411O11yd311dZ
   lI11111XG11WL11dZmU11211011XO11yfE11yjL11yiP11a511eZaO11dakF11Z011Z411ytC11eaYD11dbW211dbdI11
   XO11dbcK11aT11zc011zhG11K11A11dce411o911011dcn411zf311ecj211dcpU11611zqQ11ecuD11dcmD11WVV411W
   VWI11911WR11deXD11ddw011WVY711WVeM11YP11ZA11WVjG11efdF11X011efd211efmG11delC11derT11deq511bG1
   1M11dfeH11ZM11dfdB11dflU11dfkS11cjrD11dlVB11WWi711a711WWjT11WWnO11plD11eVq211S11wt011I11cjVE1
   1611ccK11WeWU11WXYE11B11W511ulA11umK11411K11XK11dhaD11dhaE11YJ11ZG11ZO11dR11eT11XM11c711lN11c
   L11411W111dhaL11oT11eK11ejxA11WXz911411X811dkmI11dkhG11dhy911elWN11811elf311nK11elx211WYmP11O
   11M11411Z411X311dK11XP11eN11a611ZA11WN11WYzP11WZaM11X211WZaH11WZgM11611dkb711djyM11E11WZkT11W
   ZmO11WiwC11eyzG11gR11epsR11I11WaZI11ZU11f411i311dliB11dlcO11WD11aP11aT11dmaC11XWk511bkkN11T11
   YB11bkwE11bkhM11bE11dot111WN11doY911b011X211dokU11dok911nC11f811211aS11tI11WP11dpjC11doq711We
   jH11WemD11dph011eyt511WeyF11zhF11znM11dqpB11iN11fVyU11G11WfcI11drrS11fWvI11fXZK11dry411011WT1
   1dsjP11dsXQ11Wfh011WflJ11d411WN11YR11WfpA11faXB11dtv511oF11h611Wgr911X011Wgw511dvnE11fciR11fc
   mE11m311dE11dvuI11Whg911WhkA11A11E11K11E11XC11dxh21"

def decompositionsAfter (character : Nat) (first : Int) : List Nat → List Decomposition
  | gap :: offset :: second :: rest =>
    let character := character + gap
    let first := first + ofZigzag offset
    { character, first := first.toNat, second := if second < 2 then none else some (second / 2),
      isComposed := second % 2 = 0 } :: decompositionsAfter character first rest
  | _ => []

def decompositions : List Decomposition :=
  decompositionsAfter 0 0 (decodeNumbers decompositionCode)

/-! ## Syllables

A syllable of the Korean script is composed by calculation from a leading consonant, a vowel, and
possibly a trailing consonant. -/

/-- The parts of a syllable. -/
def syllableParts? (n : Nat) : Option (List Nat) :=
  if 0xAC00 ≤ n && n ≤ 0xD7A3 then
    let index := n - 0xAC00
    let front := [0x1100 + index / 588, 0x1161 + index % 588 / 28]
    some (if index % 28 = 0 then front else front ++ [0x11A7 + index % 28])
  else none

/-- The syllable of two parts, of which the first may be a syllable without trailing consonant. -/
def syllable? (first second : Nat) : Option Nat :=
  if 0x1100 ≤ first && first ≤ 0x1112 && 0x1161 ≤ second && second ≤ 0x1175 then
    some (0xAC00 + ((first - 0x1100) * 21 + (second - 0x1161)) * 28)
  else if 0xAC00 ≤ first && first ≤ 0xD7A3 && (first - 0xAC00) % 28 = 0 &&
      0x11A8 ≤ second && second ≤ 0x11C2 then
    some (first + (second - 0x11A7))
  else none

/-! ## The normal form -/

/-- The decomposition of a character; parts are decomposed again, up to a number of times. -/
def decomposeWithin : Nat → Nat → List Nat
  | 0, n => [n]
  | depth + 1, n =>
    match syllableParts? n with
    | some parts => parts
    | none =>
      match decompositions.find? (·.character = n) with
      | some entry => decomposeWithin depth entry.first ++ entry.second.toList
      | none => [n]

/-- The number of times a part is decomposed again at most. -/
def decompositionDepth : Nat := 8

def decompose (n : Nat) : List Nat := decomposeWithin decompositionDepth n

/-- Puts a mark before those of greater classes that were last; the last one is given first. -/
def insertMark (mark : Nat) : List Nat → List Nat
  | [] => [mark]
  | last :: before =>
    if combiningClass mark ≠ 0 && combiningClass mark < combiningClass last then
      last :: insertMark mark before
    else mark :: last :: before

/-- Puts marks into the order of their classes. -/
def orderMarks (text : List Nat) : List Nat :=
  (text.foldl (fun before n => insertMark n before) []).reverse

/-- The character that two others compose. -/
def compose? (first second : Nat) : Option Nat :=
  (syllable? first second).orElse fun _ =>
    (decompositions.find? fun entry =>
      entry.isComposed && entry.first = first && entry.second = some second).map (·.character)

/-- Composes the characters behind a base, which the marks that did not join it follow; the last of
them is given first. -/
def composeAfter (base : Nat) (marks : List Nat) : List Nat → List Nat
  | [] => base :: marks.reverse
  | n :: rest =>
    let isFree := marks.head?.all fun last => combiningClass last < combiningClass n
    match if isFree then compose? base n else none with
    | some composed => composeAfter composed marks rest
    | none =>
      if combiningClass n = 0 then base :: marks.reverse ++ composeAfter n [] rest
      else composeAfter base (n :: marks) rest

/-- Composes a text. Marks that follow no base stay as they are. -/
def compose : List Nat → List Nat
  | [] => []
  | n :: rest => if combiningClass n = 0 then composeAfter n [] rest else n :: compose rest

/-- The composed normal form of a text. -/
def normalize (text : List Nat) : List Nat := compose (orderMarks (text.flatMap decompose))

end FeatureFlags.Unicode
