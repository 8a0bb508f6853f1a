import FeatureFlags.Unicode.CodePointSet

/-!
# The mapping of domain names

What becomes of each character of a domain name that is not ASCII: it is kept, left out, replaced
by other characters, or not allowed.
-/

namespace FeatureFlags.Url

open Unicode (CodePointSet decodeNumbers ofZigzag)

/-- The characters that are kept. -/
def keptCode : String :=
  "a6610111011413030N07W110101010101010101010101010101010101010101010101010301110101030101010201
   01010101010101010101010101010101010101010102010101020102031402032202010102011102030102216A010
   101010101011101010101010101011403010101010101010101010101010101010101010101010101010101010162
   02110401010101Y39U615XS20381W01010101032I0RW38010101010101010101010101030201021WKWG1010101010
   101010101010101010101018101010101010101010101010101010101010101010101010101010201010101010111
   010101010101010101010101010101010101010101010101010101010101010101010101010101010101010101010
   10WAWE12221WN8Q45HL1XP4Y61WG2WR2Y7EWR2WH2E1R201A5W07XC1YN8W417212L16103328212380832O2215412L1
   61020212014412230A09GA218121L16111429121220F32B761217212L16111428212272742HA11532133110113132
   3B4432132060EK5C121M1F28121371121123297L121M19142812137152132912CC121WJ12154F2P121H3N18102630
   4510176922CWI164SW6110141N101B192410161941W1B1WM13131313131B124110561G13131313131B121E1CW6a4W
   HWC1Y42cE132610132W9132W1132610132E1WP132X42W03P6XNApJ1R3XQ7L9N9JCC1211CWK2W829696A596XQ7WB5X
   7AU1B4B403WA24BWC4P6A3WU2X21S2A696D2WE2BKXE1aA8WS3E3WJA0WM78WB5WC30B0I0SC1W2W6X11010101010101
   010101010101010101010101010101010101010101010101010101010101010101010101010101010101010101010
   101010101010101010101010101010101010101010142110101010101010101010101010101010101010101010101
   01010101010101010101010101010101010101010101010101885A78785A78780101010101010WK140F092318213E
   0L120141B3082202310173C16X371OEW1J030B021513010101040B06355WH214114a0202cU2d6MAa5WgA1Y93Y71ZQ
   2ZDWHWG10311010104011155010101010101010101010101010101010101010101010101010101010101010101010
   1010101010101010101010101010171013105WD10502WO80EN96161616161616161Z1W3P131XKdM01WJ10341XN212
   11Y16WBY31EX7AFXA7WG0hCyzD3WN9g6L01010101010101010101010101010101010101010101I101010101010101
   01010101010102XR8W210101010101012101010101010101010101010101010101010101010101010101010101010
   101710102010101013101110121010101010101010101050501010101010101040102010101010101010Q12WJ396W
   O8X78B6YMBT3XF1A4W11WN9D292Y9ORA5252596161WC4811XMWE296goBCM4WHeXB11011A0101122cR0ZNW1gMHX21W
   N7WE2W1FL1WD0hOB1P1I111E2DW3YT524WD3XP1C30WGWEZ6S3WHFR4W49T5WB5T1W54DXKYO29WFW44W88WKB0W8A1E1
   6113WKCf09LA7O0Z35201WC11302M1X988WHI115W13Q5QW7WO4J2WI1157121S2249787X1W1W74B9WM3S2Q5P73C6XI
   XAYQWJ7WE896FPS81bMU1WA1221G588W2WE8WAMPW7RKM9XF4W49WU14DO796WL1H8W79Y21JBH1WFX0610131E1A6WR5
   96317212L1611141921222060562634B910201W619102013191181TXT14UX989aBWM2W6W3X6B96CJWQ696JSQ2E4Ma
   UWSZ8WJC72027111T112B99X872WE2ARX98XKDXA79XO7XQW2E9681WD1DAS3W02L1DXB6111WC3011188965111W5111
   5796WC49cTO7G1W93SXN0FWIDyNY9YH14Bb9Xs1Y5DWYHGLAZZQ5nOcYLWQWtTnA7U194XI196T25AX7A9161K5IiTWQc
   DWRW1OWDXC4WP7GX24B69cq3WAW0Y4YLeWL316111eBF0T220E38hNXhEYD5C387923ZXUbRW523j16MFGFWE2M9YMWTc
   SAW72WL7D8X16WALX7YTJCJCXO9OWbCq0F41EWZJU65bR61G261114Y70YJWD3D2941fAUHWQ50jUWAbSWB40b6U1L81c
   7613111E1bA2FXDWA4941uAX5XEWTj01dMWC4Y6CE2E1E1W5L4W00W1P3W31SWPPY35ZUWVN3G3C3c06B40FB4WO896W8
   8T2B41E8W8g28D2C3A3WP104F2B497ZM1XTA0WX6Wij1W1ZmA2bV72ct1Fp1ZqJaZ95duQ"

def kept : CodePointSet := CodePointSet.ofCode keptCode

/-- The characters that are left out. -/
def leftOut : CodePointSet :=
  CodePointSet.ofCode
    "aI0qM0Ys31Wq71XN4XYS0XM455Zl00WskKFcM0a50WofN3alQ7vuV6cM"

/-! ## Replacement by one character -/

/-- Characters at equal distances that are replaced by characters at the same distances. -/
structure ReplacementRun where
  first : Nat
  /-- The number of characters after the first. -/
  more : Nat
  stride : Nat
  /-- What the first character is replaced by. -/
  target : Int
deriving DecidableEq, Repr

/-- Of each run the distance from the one before, the number of characters after the first together
with their distance, and the distance from the replacement before. -/
def replacementRunCode : String :=
  "a50X2A0Z682Y030WwE40WwF10Z06WDc9OCWHW9WGIWL3YB55A87G9WEIWF0ZR15cT60lT20zU13iC40iF10i422i920i0
   30a710d010410hT20i910620C10110iA40iP10620615iK60jC10iS20j430iO20j410iS22j223iO40jA10iU408HFW3
   HHW3M0WD20b510XM1W8YNW90aQ2HdIO0rkT10rj920fD10rtQ30riU20hF10m310619ZDYD0zR10WWS10WWN10G10WXF1
   0410C10WXK104W90WVJ10WWD10E10A10WYSXU2bS30W720fMWC3ZJ40gQ20h880WrC10WzD70ZH10WmP14WmS40X02223
   W1WOIGW5WD0W910XB10C10Q10G10310910B2NWJO0WU10E10420L10520ZA20YC10YJ34d73UiNGX0X1XIW2Y5WBWMXMW
   N0ZC1DPFY2UY4XCe9XoC0aZJi1XCkyOW80XG60CWG0kXKtKAWoQXdE0dgU10410K12620210G10WJ10Xtd210Xgh47XMb
   cKWE4XSYI0dv910dI13dF30610t81Et390G10x410x110412420610WC12WVT20jbS10kcN12420WWA12420WW7208104
   10jA10j510WV912jcT20kd412820kdB10jbJ10WWH10kdN14im932W920WtG10I12622WrF20U12AF0cLW40WVK10WVS1
   0WW410s010sF10WWB10WWI10410814630ji510jeM10Y210jiF10jf710XT10116440C12K20iQ12jA20jZS12jZN20WY
   314WYE30o3X3ZPjV4a00b630krA2Y2kvFYBEb4GAW1GEW1GEW1GAW1H7W3FEU90jsG20220220220WR202202WS2jvG20
   Z310jtH30QA0jsR10jtJ10jtO10jtL80WS52kWI20aO10jtN80252kVH20bH10js210jz030ltH90lmH10js010js910j
   s450WyN10010010010010010010010010010070mVFU0mVEWH00H0W110YL3AYC60H10nWT10nVN12WA20ZG1IYUA0910
   nWT10nVN12WA30YL10810K10I10WV110WW116640A126YA0W050WWG32WW720210010010hA10h710010613064830410
   070G20WsK20WsJ20T10cR12dD30612020mlH10ml010416XvQ40Xw630Wt510P10010Q10lZM50my512022AO0040Q504
   30N12H20K10740Q50430N12H20K40moGiJ2crNf1Guk3XOWJY3QWJ0Q0Y4WwGY1siMY30Y520rg010ji310jgS35rfA60
   ri410X210X310420riP30670sjE10O12yF2Y6rkTYE3bS70EZ10c3eP0WXcUXM0wnRD0Whk110XI10S10I10WL10XQ10E
   10W910WL10WfJ10XE10C10WF10W910WB10YD10WB10M10f010b210WP10A10WT10I10WN10Q10WJ10YB10W510WN10WmO
   10ZK10yL10WF10G10M10W510ZS10zO10Y310cN10WF10W710WD10YF10610sB10K10O10Q10cF10G10A10cH10K10Q10G
   10YT10W310W510a510WbF10XU10WB10WlN10A10aB10W110Q10WB10XG10A10m710WH10X210XYH10Z810WF10YN10WH1
   0I10E10YB10A10X210XcJ10xQ10O10A10810G10W510410a710iT10A10qR10K10Y710E10I10G10aR10E10jM10E10Y5
   10W310Y110k910E10W310q310d410C10gN10aJ10XU10tC10dI10Wb110WN10YL10Y910ZC10M10C10X410ZS10K10rA1
   0E10I10I10W110U10810a310810C10XW910WT10z810O10WF10n810Q10ZI10XU10WaI10U10U10X810XC10hQ10O10ZA
   10l010X010iF10WB10A10j610gR10d210C10A10Wy810I10f210eT10610Y110bO10Q10810E10bA10X610C10S10fO10
   Y910810gP10610W710l810Y310E10ZG10K10610K10WT10uF10uP10K10XE10WD10G10K10810XI10810W310A10Q10WN
   10U10G10YP10U108WC0Xrz920SWL0ukU20ns3126d02WZeD20fU10fP12fU24fR3Ag560eK14W830WN1IWGAW9aLM2ZT2
   2gH20A10410A10810410h510hE10412hF20612420A10418450E10810K10E10A12fK24eS32XS20812I20610K10640W
   Wa310e110dD10ZqL10ZqI10X810X510pvK10pqI10Z310WG10ay810WWH10ZkMaA0YkM10ZwH10YsA10grRP0WusS1242
   4630812428650Xpm310XiR10WbT10XiR10WbT10WbT10XiR10XiR10WbT10XiR10WbT10WbT10WbT10WbT30cu120XXe8
   10e110dD10ZqL10ZhL10Wl110WuB10Wu810WoD10XnO10flK10aV110XcI10XqA10rrI10WVdC10cw010WbF10nJ10eqM
   10ou710lbE10iy010fd510pnF10pvE10XjD10jtH10ydN10WXqH10WbH10imK10rz210WcvR10WfP10irT10koL10X810
   X510diR10ae910gQ10Zj210Y410jp010qcL10WWx810znP10YXFW10qmF104104104124206104104104104104104104
   1041041041061041041A460G10610610618650C1041A466EzqSWEXVkLX2RZ4S0Xti4104Z9DXtsFGWUW1X00YR93M40
   Xgl819XglJD0Q20XuzK33XvV06JCK0XvV910J10A10M10320YB10WE10WD10XwwE1FWxMG0X310Xuy910jhM13XgoU40X
   vYI1FXvYTG0XvlRL0o210W010610M10XwcO30Xvw010XQwU0XvfQ10Xa310XwxQ10XwzJA0XwxC7a3eY0ppG0XXdO10ow
   F10qbT10WX410kyR10mgN10YW410WefG10010WbiT10zY510WWYM10XV010ZoB10fwN10ZvE10Yn310tE10pG10ZWB10p
   lL10Wp510WzP10WnR10drC10cVJ10ZlQ10WeaQ10XoN10hm310Yt310fqF10hsD10WYl910ex910gpD10Wx910pmI10ll
   U10YfL10rVJ10Zi310YgE10Xz010kwG10WYt510Wa610o110elJ10Yc210YvH10XmT10ZvA10YbD10aH10ZW310ZxU10X
   d010Wg010oy510kL10Xb610YdN10dYH10bYJ10fjL10vo610YdF10koS10Xb010cl010YhP10foP10aiI10WXXU10WwE1
   0ce410XVC10oT10cl910m110huL10WZyB10tg510tw010W010qjP10Wy010YeC10evP10auT10qq110YuS10mmO10WWgK
   10cdT10XbQ10fgB10WVH10ne810paP10qz010djQ10egP10lgP10Yx010hnQ10rW810Xj210lf010cXB10YhB10ljT10o
   ZT10nrJ10aXG10lzS10lpD10ejF10poC10Wj310b610hY710fvS10XyB10ZjG10YrD10WXk110qF10XsN10XxC10Yp310
   aiQ10ZwF10kaS10Xl810XbU10YH10WenF10fs310XkF10oZ710vX310WpB10c710WgU10ao010WZF10WrL10XtO10XbO1
   0WeU10cv110aiN10az310Wq210WYrP10e110WYM10jy510ht010WVF10sgL10oB10Ww610ZgD10duH10Zq210ojS10ZeF
   10XoD10z410WdB10fiF10gP10ayQ10g310em410XlI10a910iD10Wcp710riT10htO10XpQ10xq610et410WcE10awU10
   a710ZzE10XfQ10ZZO10XgH10cv710bYT10dVQ10zgM10ugU10WaW610gZT10cN10XuJ10rC10XwJ10qL10WoM10XjM10j
   lU10WbtK10dxM10wvJ10Wbj210bwH10dyN10mr510ugF10xE10YoM10bXS10np010Wai210WVB10ZiL10aZR10pA10rA1
   0Xd010YtN10zM10aYC10Zz610W510Zs910Xr010WaW210joR10jaG10kuG10WjT10ed310dw510YW610WbL10yeR10YeE
   10fr610YtE10aF10sR10ac510WZG10jcN10WWdN10wyE10vY010Y810brE10XbU10ivJ10ms710egK10YhS10qnB10YqF
   10cj910btL10rsG10cc510XhA30WgU20ckS30fyU10mrT10WxR10WeC10X610E10XM10kvP10ja610WnF20YgI20XnS30
   XtM10hM40Zc710Q10XQ10Xi310buU10YYI10Wbv610p610bI10tG10WN10c110WbT10bO10bA10zE10bM10WzL10K10Xb
   G10iL10XE10bE10WtH10eF10g910WW810XoL10fG10m110WbT10h610WWE10Xg710g510M10110G10C10E12Y320gH10Z
   610pI10WaC10WB10YJ10oL10eF10WVF10e110010zQ10Xl010dK10sD10YJ10vE10YD10Wi810dC10Ym410nA10YR10yr
   410deWI10crZ030wpS10WwO10ZT10WVE10y710YP10q310Y910WhH10ZJ10ZC10ZM10WeO10aN10eB10W110mD10hO10W
   yG10E10e910ZC10o910cJ10ZF10dK10XT10eD10Z810uP10aL10YF10lO10nE10fG10810YP10XbA10Z610u710vE10W0
   10aJ10l810qL10YeO10XwS10cR10cT10q310eJ10YD10jI10410g110W310WJ10aH10J10uH10WV910mF10h210jE10eR
   10q910hQ10WsG10f410WwE10yD10ZE10W110o510YL10XR10YF10510W210ZS10a710tK10Wa410p810o110j810XZE10
   bK10cD10dI10XA10O10Y310WkS10XhU10bsbH10B10ba110dpoM10Xh010X410eYhI10anR10nYN10dckF10ZQX90Xow1
   10W412624G30Q10410YWRW80YfJ10010K10010010010610010010010410010010010B10010010010A10010010010B
   10010010010XO10010010010410010010010X510010010010110010010010610010012020210010010C1001011001
   0410010B10010W110010D10010WH10010010010C10010010010810010010010310010010010I12020210010010A12
   020210010010510010010010W9120202W30XD10010010010WL10010110010410020610010B10010810010E1001001
   0010dL100J0dE100100100m20YlC10uk022uj220WI10WT12uk4Q0dlB10110lwI10012YG20aB10412ug022722B2232
   6860uhK10450410010010Y810uk030uj010110A10WS10mVL12mV620aB10412ug020ulO10612820610U10410120X01
   2YI20WPL2YZ3222222222222202100120222202100120222202100120202100120202100120202100120202100120
   22222222222220210012020210012020210012020210012020210012020210012020210012020210010010E100100
   120202100120202100120202100120202100120202100120202100120222222202100100DX0YdMW1WJZ4QX8BW52qx
   R20rVN12ukI20L10l410H10a610410410410410YN10410410X910YL10aO1041041041242061041041041041041041
   041041041041061041041A460G10610610618650C1041A460E10812aO32luQ20fU10fP12fU24fR3Ag560eK14W830W
   N1IWGDAaL8AC8AC84C62dyM20K20B10110mWO20XeP16WuR40Xa310XOWXJXGYujIaLX8gBb6KhACSOGCW182GkS2Ziy9
   20WVI10x210ZF20a510Xwx910Xwx410112a020jkN10jkI10C10ZQ10ZD10310310YP10sU10t210YC10WR12XE20YU10
   daxF10afy310Xuz610daxD10davA10davD10dbqI12tK20WXA10WXJ10dawQ12dawJ20610XI10310Xwx510Xwx210WU1
   0rf620reM12W520H14iS30dbdU10W9WdDY7YoXDbMWBgBYVDX0bVQru3X0Wjo6Y3WHaRuY0WJbeaLQIY4WwAWJY5QWJ0Q
   WJ0QC08W3GIWJFQWJ0Q303063063264685EA86W453A3A67KEBWJTQWJ0Q203666EC9CI8WJW4Q2036658A60C4C88WJW
   4QWJ0QWJ0QWJ0QWJ0QWJ0QWJ0QWJ0QWJ0QWJ0QWJ0QWJ0QWJ0Q0iD10lS3W1tCH0E1CM70lYR1W1la0H0W51C070lYH10
   lZD10610410O1091011W1TH0E1CM70lYR1W1la0H0W51C070lYH10lZD10610410O1091011W1TH0E1CM70lYR1W1la0H
   0W51C070lYH10lZD10610410O1091011W1TH0E1CM70lYR1W1la0H0W51C070lYH10lZD10610410O1091011W1TH0E1C
   M70lYR1W1la0H0W51C070lYH10lZD10610410O10910110WR1003IWyLAI0AI0AI0AI0XaTGXZ294K3K8B0Q12420XtiF
   10XtZD10dD10410eB10YM10X21Gf792K2282061A462E20ZI10YO10110K10ZS10XtYP10XtYCXdPX4dfY3Wf92deeT20
   A10620WJ10WC10910K10W716D40W010C10G10N10Q10W210612J20810410C10410410YB10ZS10WI10Y620ZH10820WN
   30WK20WR16D40W010C10G10N10Q20R12J20820G20870R50220WR23B30W210C20710Q20R30B20G20820d820ZP20ZH1
   0820WN30WK10K10W713D30610W610C10G10N10Q20R12J20820G10410410YB20Y922cQ20A10612WH20WA10910K10W7
   24B30W210C10G10N10Q10W210612J20810410C10410460W410810620WJ10WC10910K10W724B30W210C10G10N10Q10
   W210612J20810410C104104p40YYD10U4WJW2bO0us6E0vhU10YqP10ZVH10npB10kvL10aoA10uzN10uyN10anM10hkR
   10avN10bZD10fdL10cWO10cj410frI10fi810rzI10ZfB10hlO10wm710XkQ10jeH10bpB10hC10gg910I10WZe810vv7
   10dgK10YXB10dW110rnE10rz110hfQ10l210pjT10jY510Yz810110cm010nkU10WrT10WVs6L0vk010bbFXmEIWio4Xa
   ZH0Wfn310910I10cjqG10cjXU10a110Q10ZI10cN10X010a110WG10kVI10dVX210ckt910E10W110W710ckY510czhQ1
   0kdL10XE10ckZO10ckZ310Q10WkT10WlF10I10ewz010ewuQ10S10kl810koS10M10XQ10A10kp810kuE10410WN10WD1
   2M20W510Y710G10I10WJ10K10410010010clr710cWe610kd410WB10cma310cmZ910C10WB10eP10bH10W110X210YN1
   0aD10WL10ZA10W110X410010WB10W510G10U10qT10mG10mJ10hN10X810Xg210Yq010nH10XE10WJ10dB10fO10110cT
   10copO10col710A10U10W910G10Z410cpc610Z810cpXG10Y110O10a210e510nwO10S10obB10YF10010cpx310cpoF1
   0WB10U10O10cqc310cqb910E10WsG10WqL10okT10ooU10S10a910Y810crhB10crVI10crVN10cqxT10510W312bG20p
   XH10pZC10XO10WB10XQ10pd110dhnG10dhlP10pfU10610610W910ezi810ezeR10csxI10010cad910nmS10010piE10
   dqm610uYE10dvY010I10plB10poD10Y910K10X610dO10pxL10WS10qVR10cuVE10ctx410dA10810410310XU10W910X
   A10R10M10Y110W910810WL10M10Z810aD10X810d010cutU10cuv510Z510bU10WN10b810cuz610cuv510aU10WO10rY
   210rkF10WB10X010XD10rhB10rvA10WR10cwfI10cwXR10mR10g810sV810sZT10sb010X910hXI10610ghN10bD10iwG
   10WWhJ10nt210810C10YT10L10cxeK10dpsU10su410cG10i710Y910cxVR10cxV810c410kP10tbR10teR10b810ZI10
   h810cxX310cwyO10tx910uWQ10cxwI10cxt810uWJ10uYI10XS12WN20cyn210krA10kyC10cykG10cziI10czb810S10
   bH10g910XI10YL10YE10XI10U10Q10cyzQ10cza110l610Z210vc210vi310710czc410czpC10t210czaE10Y310czXQ
   10cD10WM10510vxB10wVD10Y910B10YF10byk810byaD10cztT10czo910dVeF10dVVD10Q10WN10dWaS10dWXO10WB10
   dWpR10jC10dWpE10W310xa610xbS10xb310010xlI10WB10WB10W910ZE10xnJ10xtE10dXz810dXxH10dYYG10dYV810
   cgYT10cftI10dZeF10WF10e110eXj410O10yd310dZlI10110XG10WL12dZmU20210XO10yfE10yjL10yiP10a510eZaO
   10dakF10Z010Z410ytC10eaYD10dbW210dbdI10XO10dbcK10aT10zc010zhG10K10A10dce410o910010dcn410zf310
   ecj210dcpU10610zqQ10ecuD10dcmD10WVV410WVWI10910WR10deXD10ddw010WVY710WVeM10YP10ZA10WVjG10efdF
   10X010efd210efmG10delC10derT10deq510bG10M10dfeH10ZM10dfdB10dflU10dfkS10cjrD10dlVB10WWi710a710
   WWjT10WWnO10plD10eVq210S10wt010I10cjVE10610ccK10WeWU10WXYE10B10W510ulA10umK10410K10XK10dhaD10
   dhaE10YJ10ZG10ZO10dR10eT10XM10c710lN10cL10410W110dhaL10oT10eK10ejxA10WXz910410X810dkmI10dkhG1
   0dhy910elWN10810elf310nK10elx210WYmP10O10M10410Z410X310dK10XP10eN10a610ZA10WN10WYzP10WZaM10X2
   10WZaH10WZgM10610dkb710djyM10E10WZkT10WZmO10WiwC10eyzG10gR10epsR10I10WaZI10ZU10f410i310dliB10
   dlcO10WD10aP10aT10dmaC10XWk510bkkN10T10YB10bkwE10bkhM10bE10dot110WN10doY910b010X210dokU10dok9
   10nC12f820aQ10tI10WP10dpjC10doq710WejH10WemD10dph010eyt510WeyF10zhF10znM10dqpB10iN10fVyU10G10
   WfcI10drrS10fWvI10fXZK10dry410010WT10dsjP10dsXQ10Wfh010WflJ10d410WN10YR10WfpA10faXB10dtv510oF
   10h610Wgr910X010Wgw510dvnE10fciR10fcmE10m310dE10dvuI10Whg910WhkA10A10E10K10E10XC10dxh2"

def replacementRunsAfter (start : Nat) (target : Int) : List Nat → List ReplacementRun
  | gap :: shape :: offset :: rest =>
    let first := start + gap
    let target := target + ofZigzag offset
    { first, more := shape / 2, stride := shape % 2 + 1, target } ::
      replacementRunsAfter first target rest
  | _ => []

def replacementRuns : List ReplacementRun :=
  replacementRunsAfter 0 0 (decodeNumbers replacementRunCode)

/-- The character that replaces another. -/
def replacement? (n : Nat) : Option Nat :=
  (replacementRuns.find? fun run =>
    run.first ≤ n && n ≤ run.first + run.more * run.stride && (n - run.first) % run.stride = 0).map
      fun run => (run.target + ((n - run.first : Nat) : Int)).toNat

/-! ## Replacement by several characters -/

/-- Of each character the distance from the one before, the number of its replacements, and the
replacements. -/
def expansionCode : String :=
  "aD2W1u172W1tS52W1tP42W1v143WIdnEWL13WIdnEWJ13WKdnEWLYL2YCu022YCYD12YCYDC2YFaS12YFaS92rIYHYU2Y
   7hA12Y7hA12Y7hA12YFYD12YFYD12YFYD12YHYD12YHYD12YHYDW62Y7YT12Y7YT12Y7YTcC2W1tU12W1u012W1u312W1
   v212W1tR12W1u4YA2u1tPWN2W1zNA2W1tP13W1u1tPlI2WiHWjFcL2WoPWr912WpRWr912WtUWr912WpTWr9sN2Xi0Xj8
   12Xi1Xj812Xi2Xj812Xi7Xj812XiCXj812XiDXj812XiMXj812XiQXj8Z12XmGXnC12XmHXnC22XmUXnCXM2Xr6XrG32X
   rCXrGW42Xq9XrG12XqAXrG12XqFXrG32XqUXrGd62XySXzO12XyTXzOsD2Yu3Yt7Z42Yy7YxBWA2Yx4YwH12Yx4YwPY92
   ZX0ZaOA2ZXAZaO52ZXFZaO52ZXKZaO52ZXPZaOD2ZWTZaMA2ZYGZYH22ZYGZYJ12ZaJZZ013ZaJZYGZZ012ZaKZZ013Za
   KZYGZZ082ZYGZZ0I2ZZIZaOA2ZZSZaO52Za2ZaO52Za7ZaO52ZaCZaOD2ZZGZaMYyR2Y4rKcD2dd0zN12dd1zN12dd2zN
   12dd3zN12dd4zN12dd5zN12dd6zN12dd7zN12dd0zN12dd1zN12dd2zN12dd3zN12dd4zN12dd5zN12dd6zN12dd7zN12
   de1zN12de2zN12de3zN12de4zN12de5zN12de6zN12de7zN12de8zN12de1zN12de2zN12de3zN12de4zN12de5zN12de
   6zN12de7zN12de8zN12dg3zN12dg4zN12dg5zN12dg6zN12dg7zN12dg8zN12dg9zN12dgAzN12dg3zN12dg4zN12dg5z
   N12dg6zN12dg7zN12dg8zN12dg9zN12dgAzN32dgJzN12zFzN12zAzN32diRzN52zFzN12W1uC22W1uC12W1vS13W1u1v
   S12dgNzN12zLzN12zCzN32djCzN52zLzN13W1uCtO13W1uCtP13W1uCvSE3W1uDtO13W1uDtP13W1uDvSE3W1u1tO13W1
   u1tP42dh0zN12WV8zN12WVDzN32dkTzN52WV8zN12W1tP12W1uDP2W1vDS2dmRdmR13dmRdmRdmR22dmUdmU13dmUdmUd
   mU52W2W222W1tT92X1X112X1W212W2X1E4dmRdmRdmRdmRXJ2YLYMXQ3Y4WGY613Y4WGYM22aLY623Y6WGYI13Y6WGYO3
   2aLY9D2YHYIA2YMYG13YNY8YF12YNYGP3Y9Y4YRL3WIdnEWO13WIdnEWQ14WIdnEWIWH13WIdnEWK13WJdnEWK13WIdnE
   WM13WJdnEWM13WKdnEWM13WLdnEWM13WIdnEWN13WMdnEWN13WIdnEWP13WKdnEWP13WMdnEWP13WOdnEWP12WIdnE22Y
   CYC13YCYCYC12YCYP22YPYC13YPYCYC14YPYCYCYC12YCYR22YRYC13YRYCYC62YCYC13YCYCYC12YCYP22YPYC13YPYC
   YC14YPYCYCYC12YCYR22YRYC13YRYCYCE3WHdnEWKa82eY5eY513eY5eY5eY522eY8eY813eY8eY8eY8nB2WIWH12WIWI
   12WIWJ12WIWK12WIWL12WIWM12WIWN12WIWO12WIWP12WIWQ12WJWH13W9WIWA13W9WJWA13W9WKWA13W9WLWA13W9WMW
   A13W9WNWA13W9WOWA13W9WPWA13W9WQWA14W9WIWHWA14W9WIWIWA14W9WIWJWA14W9WIWKWA14W9WIWLWA14W9WIWMWA
   14W9WIWNWA14W9WIWOWA14W9WIWPWA14W9WIWQWA14W9WJWHWAL3W9Y4WA13W9Y5WA13W9Y6WA13W9Y7WA13W9Y8WA13W
   9Y9WA13W9YAWA13W9YBWA13W9YCWA13W9YDWA13W9YEWA13W9YFWA13W9YGWA13W9YHWA13W9YIWA13W9YJWA13W9YKWA
   13W9YLWA13W9YMWA13W9YNWA13W9YOWA13W9YPWA13W9YQWA13W9YRWA13W9YSWA13W9YTWAWi34eY5eY5eY5eY5YB3WR
   WRWU12WUWU13WUWUWUY92ghUvIWlE2W1hyA12W1hyB32hxOhxQY32hz5hzQd93W9ZlCWA13W9ZlEWA13W9ZlFWA13W9Zl
   HWA13W9ZlIWA13W9ZlJWA13W9ZlLWA13W9ZlNWA13W9ZlOWA13W9ZlQWA13W9ZlRWA13W9ZlSWA13W9ZlTWA13W9ZlUWA
   13W9WjuCWA13W9WlWAWA13W9Wlp9WA13W9Wmw7WA13W9Wnk6WA13W9WoY5WA13W9Wpf3WA13W9Wqm1WA13W9Wra0WA13W
   9WsgTWA13W9WszSWA13W9WtnRWA13W9WubQWA13W9WuuPWA13W9WrlNWA14W9Wqt8WrdNWA14W9Wqt8WvbHWA23W9pt4W
   A13W9pxKWA13W9ptDWA13W9sZ8WA13W9pxSWA13W9qqDWA13W9pt7WA13W9qqBWA13W9pw4WA13W9raGWA13W9wiQWA13
   W9yyBWA13W9xuHWA13W9wjRWA13W9Wcv5WA13W9sbEWA13W9wZEWA13W9ws6WA13W9wiRWA13W9WWe7WA13W9rh3WA13W
   9zkAWA13W9WbjAWA13W9WWf7WA13W9rVUWA13W9qVEWA13W9rkLWA13W9tfOWA13W9WVpOWA13W9qWDWA13W9WbkHWA13
   W9rb4WA13W9WWfNWA13W9qWTWA13W9WYnQWA13W9WYo4WAD3YJYNY812WJWI12WJWJ12WJWK12WJWL12WJWM12WJWN12W
   JWO12WJWP12WJWQ12WKWH12WKWI12WKWJ12WKWK12WKWL12WKWMT2WshEWkWJ12WrlNWrY6WL2WKWN12WKWO12WKWP12W
   KWQ12WLWH12WLWI12WLWJ12WLWK12WLWL12WLWM12WLWN12WLWO12WLWP12WLWQ12WMWH12WIwiQ12WJwiQ12WKwiQ12W
   LwiQ12WMwiQ12WNwiQ12WOwiQ12WPwiQ12WQwiQ13WIWHwiQ13WIWIwiQ13WIWJwiQ12YBYA13Y8YLYA12Y8YP13YFYNY
   7WH2qVFrl614hyJiV4iWGhzQ14hyJiVUiV8hyI14hyJiW7iVDhyJ13hyJiWGiVU14hyLhzTiW7hz213hyLiW7hzJ13hyN
   hyQiW715hyPhzBhz1iWGhzR14hyPiWGhySiWG13hyRiW7hzB13hyRiWGiVJ13hyShyLiVT14hySiVShzLhzQ14hySiW1i
   VTiWG13hyTiW1iW713hyTiW7iVH12hz0hyT13hz0hzTiWG14hyUiVOiVTiWG14hz0iVUhzIiWG12hyUiW115hyUiW1hz2
   iVSiVJ16hyUiW1iVKiWGhzQiVU15hyUiW1iW3hzLhzQ13hz2iVSiVJ15hz2iVSiVJhzQiW715hz1iVUhzEhyLiW114hz1
   iW1iWGiV013hz3iWGhzB13hz5iVUhzS13hz5iWGiVG14hz7hyLhz1iVU15hz7iW7hzJiWGiVJ14hz9iVTiW7hz213hzDi
   W7hzJ13hzDiW7hzQ13hzIiWGhzB12hzPhz912hzRiVU12hzQiW712hzSiV113iV1hzLhzQ13iV2hyLhzM15iV4iWGhzDi
   W7hzQ13iV4iWGhzM14iV3iWGiW0iVU15iV7hyJhzBhzQiVU13iV7hz1iVU12iV7hz512iV6iVU15iV8hyIiVShzLhzR14
   iV8hyKiWGhzQ15iV9hzLhz9hyOiVU13iV8iVSiW715iVBhz1hzHiWGiVU12iVDhzF13iVDhzTiV513iVBiVUhzM13iVDi
   W7hzB13iVDiWGhzA13iVCiWGhzH14iVGhyLiW7hzQ13iVFiVUhzQ12iVEiW713iVGiW7hzR13iVEiWGiVU13iVEiWGiW7
   14iVHhyLhz1iW113iVHhyLiVU13iVHhzLiV213iVHiVUhz115iVHiW7hz9iVQiW714iVIhz1iW1iW712iVIiVT15iVIiV
   TiV3iWGiVU12iVKhyT14iVKhyThzQiW714iVKiWGhzQiVU13iVNiWGhzR13iVNiWGiVU13iVPhyJiW714iVThzLhzQiVU
   12iVTiVS13iVUiV7iWG14iVUiWGiV9iVU12iW0iVJ15iW0iW7hzQhz4iW713iW3hzLhzQ12WHzVR12WIzVR12WJzVR12W
   KzVR12WLzVR12WMzVR12WNzVR12WOzVR12WPzVR12WQzVR13WIWHzVR13WIWIzVR13WIWJzVR13WIWKzVR13WIWLzVR13
   WIWMzVR13WIWNzVR13WIWOzVR13WIWPzVR13WIWQzVR13WJWHzVR13WJWIzVR13WJWJzVR13WJWKzVR13WJWLzVR13YBY
   JY412Y7Y412Y4YO13Y5Y4YL12YIYP12YJY612Y7YG13Y7YGWJ13Y7YGWK12YCYO12uZUvYP12wbOrl612ss7xnP12waOx
   yS14ws6uf0qX7WWe712YJY412YHY412zQY412YGY412YEY412YEY512YGY512YAY513Y6Y4YF14YEY6Y4YF12YJY912YH
   Y912zQY912zQYA12YGYA12YEYA12YBYT13YEYBYT13YGYBYT13YAYBYT13YNYBYT12zQYF12YGYF12Y7YF12YEYF12Y9Y
   G12YHYG12zQYG12YGYG12Y6YG12YEYG13YGYGWJ13Y6YGWJ12YGWJ13YEYGWJ13YGYGWK13Y6YGWK12YGWK13YEYGWK13
   YGeXEYM14YGeXEYMWJ12YJY413YEYJY413YGYJY413YAYJY413YLY4Y715YLY4Y7eXEYM16YLY4Y7eXEYMWJ12YJYM12Y
   HYM12zQYM12YGYM12YJYP12YHYP12zQYP12YGYP12YEYP12YGYP12YJYQ12YHYQ12zQYQ12YGYQ12YEYQ12YGYQ12YEWV
   812YGWV822Y5YK12Y6Y612Y6Y714Y6eXEYEYA22Y7Y512YAYS12YBY412YBYJ12YCYH12YEYE12YEYG12YEYN12YFYG12
   YFYH13YFYIYA12YFYR12YGY513YGYCYF13YGYIYF12YJYB23YJYJYG12YJYL12YMYL12YMYP12YQY513YPeXEYG13Y4eX
   EYG12WIwZE12WJwZE12WKwZE12WLwZE12WMwZE12WNwZE12WOwZE12WPwZE12WQwZE13WIWHwZE13WIWIwZE13WIWJwZE
   13WIWKwZE13WIWLwZE13WIWMwZE13WIWNwZE13WIWOwZE13WIWPwZE13WIWQwZE13WJWHwZE13WJWIwZE13WJWJwZE13W
   JWKwZE13WJWLwZE13WJWMwZE13WJWNwZE13WJWOwZE13WJWPwZE13WJWQwZE13WKWHwZE13WKWIwZE13YAY4YFWrVC2Y9
   Y912Y9YC12Y9YF13Y9Y9YC13Y9Y9YF12YMYN12YMYND2Wj1Wj312Wj1WiH12Wj1WiN12WjBWj312Wj1WiP62Wm9Wl322W
   n3Wl6B2WmPWlG12WmPWlH13WmPWlBWlG13WmPWlBWlH12Wm0Wl612Wm0Wl712Wm0WlB12Wm1WlB12Wm2WlB12Wm3WlB12
   Wm4WlB12Wm5WlB12Wm6WlB22Wm8WlB12Wm9WlB12WmAWlB12WmBWlB12WmCWlB22WmEWlB22WmGWlB12WmHWlB22WmJWl
   B12WmKWlB22WmMWlB12WmNWlB12WmOWlB12WmPWlB12WmQWlB12Wm5Wl812Wm1WlE12WmBWlE12WmKWlE12Wm0WmCZI2W
   tUWr9D2WoOWoP12WoOWoP12WoOWuD12WoOWuD12WoOWpR12WoOWpR12WoOWtU12WoOWtU12WoOWtT12WoOWtT12WoOWu0
   12WoOWu012WoOWu812WoOWu812WoOWu812WoOWpS12WoOWpS12WoOWpS52WoOWoU12WoOWp012WoOWpO12WoOWpS12WoO
   WpT12WoQWoU12WoQWp012WoQWp112WoQWpO12WoQWpS12WoQWpT12WoSWoU12WoSWp012WoSWp112WoSWpO12WoSWpS12
   WoSWpT12WoTWoU12WoTWpO12WoTWpS12WoTWpT12WoUWp012WoUWpO12Wp0WoU12Wp0WpO12Wp1WoU12Wp1Wp012Wp1Wp
   O12Wp6WoU12Wp6Wp012Wp6Wp112Wp6WpO12Wp8Wp012Wp8WpO12Wp9WoU12Wp9Wp012Wp9Wp112Wp9WpO12WpAWp012Wp
   AWpO12WpBWpO12WpCWoU12WpCWpO12WpDWoU12WpDWpO12WpKWoU12WpKWp012WpKWp112WpKWpO12WpKWpS12WpKWpT1
   2WpLWp012WpLWpO12WpLWpS12WpLWpT12WpMWoP12WpMWoU12WpMWp012WpMWp112WpMWpN12WpMWpO12WpMWpS12WpMW
   pT12WpNWoU12WpNWp012WpNWp112WpNWpO12WpNWpS12WpNWpT12WpOWoU12WpOWp012WpOWp112WpOWpO12WpOWpS12W
   pOWpT12WpPWoU12WpPWp012WpPWp112WpPWpO12WpPWpS12WpPWpT12WpQWoU12WpQWpO12WpQWpS12WpQWpT12WpTWoU
   12WpTWp012WpTWp112WpTWpO12WpTWpS12WpTWpT12Wp3Wr512Wp4Wr512WpSWr513W1Wq0Wq513W1Wq1Wq513W1Wq2Wq
   513W1Wq3Wq513W1Wq4Wq513W1Wq5Wr512WoOWp412WoOWp512WoOWpO12WoOWpP12WoOWpS12WoOWpT12WoQWp412WoQW
   p512WoQWpO12WoQWpP12WoQWpS12WoQWpT12WoSWp412WoSWp512WoSWpO12WoSWpP12WoSWpS12WoSWpT12WoTWp412W
   oTWp512WoTWpO12WoTWpP12WoTWpS12WoTWpT12WpKWpS12WpKWpT12WpLWpS12WpLWpT12WpMWoP12WpMWpN12WpMWpO
   12WpMWpS12WpMWpT12WpNWpO12WpNWpS12WpNWpT12WpOWoP12WpOWpO12WpPWp412WpPWp512WpPWpO12WpPWpP12WpP
   WpS12WpPWpT12WpSWr512WpTWp412WpTWp512WpTWpO12WpTWpP12WpTWpS12WpTWpT12WoOWoU12WoOWp012WoOWp112
   WoOWpO12WoOWpQ12WoQWoU12WoQWp012WoQWp112WoQWpO12WoQWpQ12WoSWoU12WoSWp012WoSWp112WoSWpO12WoSWp
   Q12WoTWpO12WoUWp012WoUWpO12Wp0WoU12Wp0WpO12Wp1WoU12Wp1WpO12Wp6WoU12Wp6Wp012Wp6Wp112Wp6WpO12Wp
   8Wp012Wp8Wp112Wp8WpO12Wp9WoU12Wp9Wp012Wp9Wp112Wp9WpO12WpAWp012WpBWpO12WpCWoU12WpCWpO12WpDWoU1
   2WpDWpO12WpKWoU12WpKWp012WpKWp112WpKWpO12WpLWp012WpLWpO12WpMWoU12WpMWp012WpMWp112WpMWpN12WpMW
   pO12WpNWoU12WpNWp012WpNWp112WpNWpO12WpNWpQ12WpOWoU12WpOWp012WpOWp112WpOWpO12WpPWoU12WpPWp012W
   pPWp112WpPWpO12WpPWpQ12WpQWoU12WpQWpO12WpQWr512WpTWoU12WpTWp012WpTWp112WpTWpO12WpTWpQ12WoOWpO
   12WoOWpQ12WoQWpO12WoQWpQ12WoSWpO12WoSWpQ12WoTWpO12WoTWpQ12Wp6WpO12Wp6WpQ12Wp7WpO12Wp7WpQ12WpM
   WpN12WpMWpO12WpNWpO12WpPWpO12WpPWpQ12WpTWpO12WpTWpQ13WpJWq2Wq513WpJWq3Wq513WpJWq4Wq512WpAWpS1
   2WpAWpT12WpCWpS12WpCWpT12WpDWpS12WpDWpT12Wp6WpS12Wp6WpT12Wp7WpS12Wp7WpT12Wp0WpS12Wp0WpT12WoUW
   pS12WoUWpT12Wp1WpS12Wp1WpT12Wp8WpS12Wp8WpT12Wp9WpS12Wp9WpT12Wp7WoU12Wp7Wp012Wp7Wp112Wp7WpO12W
   p7Wp412Wp6Wp412Wp8Wp412Wp9Wp412WpAWpS12WpAWpT12WpCWpS12WpCWpT12WpDWpS12WpDWpT12Wp6WpS12Wp6WpT
   12Wp7WpS12Wp7WpT12Wp0WpS12Wp0WpT12WoUWpS12WoUWpT12Wp1WpS12Wp1WpT12Wp8WpS12Wp8WpT12Wp9WpS12Wp9
   WpT12Wp7WoU12Wp7Wp012Wp7Wp112Wp7WpO12Wp7Wp412Wp6Wp412Wp8Wp412Wp9Wp412Wp7WoU12Wp7Wp012Wp7Wp112
   Wp7WpO12Wp6WpQ12Wp7WpQ12WpAWpO12Wp6WoU12Wp6Wp012Wp6Wp112Wp7WoU12Wp7Wp012Wp7Wp112WpAWpO12WpBWp
   O12WoPWpU12WoPWpUJ3WoSWoUWpO13WoSWp0WoU13WoSWp0WoU13WoSWp0WpO13WoSWp1WpO13WoSWpOWoU13WoSWpOWp
   013WoSWpOWp113WoUWpOWp013WoUWpOWp013Wp0WpOWpT13Wp0WpOWpS13Wp6Wp0WoU13Wp6WoUWp013Wp6WoUWpS13Wp
   6WpOWp013Wp6WpOWp013Wp6WpOWoU13Wp6WpOWpO13Wp6WpOWpO13Wp8Wp0Wp013Wp8Wp0Wp013Wp8WpOWpO13Wp7Wp0W
   pO13Wp7Wp0WpO13Wp7WoUWpT13Wp7WpOWp113Wp7WpOWp113Wp7WpOWpO13Wp7WpOWpO13Wp9Wp0WpS13Wp9Wp1WpO13W
   p9Wp1WpO13WpAWpOWp013WpAWpOWp013WpAWpOWpO13WpAWpOWpT13WpCWoUWpO13WpCWpOWpO13WpCWpOWpO13WpCWpO
   WpS13WpDWpOWpO13WpDWpOWpT13WpDWpOWpS13WpKWp1WpO13WpKWp1WpO13WpLWpOWp013WpLWpOWpO13WpNWp0WpO13
   WpNWp0WpT13WpNWp0WpS13WpNWoUWoU13WpNWoUWoU13WpNWp1WpO13WpNWp1WpO13WpNWpOWp013WpNWpOWp013WpOWp
   0WoU13WpOWp0WpO13WpOWp0WpT13WpOWoUWp013WpOWoUWpO13WpOWp1WoU13WpOWp1WpO33WpOWoUWp113WpQWpOWoU1
   3WpQWpOWpO13WpPWp0WpO13WpPWp0WpS13WpPWoUWpO13WpPWoUWpO13WpPWoUWpS13WpPWpOWpT13WpPWpOWpS13WpTW
   pOWpO13WpTWpOWpO13WoQWp1WpT13WoSWoUWpT13WoSWoUWpS13WoSWp1WpT13WoSWp1WpS13WoSWpOWpT13WoSWpOWpS
   13WoUWpOWpT13WoUWp0WpS13WoUWpOWpS13Wp6Wp1WpS13Wp8Wp0WpT13Wp7Wp0WpT13Wp9Wp0WpT13WpNWoUWpT13WpN
   WpOWpT13WpTWp0WpT13WpTWoUWpT13WpTWpOWpT13WpOWpOWpT13WpLWpOWpT13WpPWp0WpT13WpLWpOWp013WpNWp0Wp
   O13WpCWpOWpT13WpMWpOWpT13WpPWoUWp013WpOWp1WpT13WpNWoUWpO13WpMWpOWpO13WpNWoUWpO13WpPWoUWp013Wo
   UWp0WpT13Wp0WoUWpT13WpOWoUWpT13WpKWpOWpT13WoQWp0WpT13WpMWpOWpO13WpCWoUWpO13Wp8WpOWpO13Wp6Wp1W
   pT13WpPWoUWpTWA3Wp8WpNWuA13WpLWpNWuA14WoPWpNWpNWpQ14WoPWpMWoQWp414WpOWp0WpOWp214Wp8WpNWpCWpO1
   4Wp4Wp6WpRWpN14WpCWpNWpTWpQ14WpRWp6WpNWpO13Wp8WpNWpS1IWp8WpNWpSW1WoPWpNWpNWpQW1WpCWpNWpTWpQW1
   WpRWp6WpNWpO18WoUWpNW1WoUWpNWoPWpNWpQ14Wp4Wu4WoPWpNXF2W1tT12W1tT12W1tT12W1tTW52W1WpU12WpJWpU1
   2W1Wq022W1Wq122W1Wq212WpJWq212W1Wq312WpJWq312W1Wq412WpJWq412W1Wq512WpJWq512W1Wq612WpJWq6YP2Wp
   NWoK12WpNWoK12WpNWoL12WpNWoL12WpNWoN12WpNWoN12WpNWoP12WpNWoPcE2W1tSWttS2YzyPYzz812YzyQYzz813Y
   zyQYzz8YzzH13YzyQYzz8YzzI13YzyQYzz8YzzJ13YzyQYzz8YzzK13YzyQYzz8YzzLXP2ZVWUYzz812ZVX0Yzz813ZVW
   UYzz8YzzH13ZVX0Yzz8YzzH13ZVWUYzz8YzzI13ZVX0Yzz8YzzIdf32WHWD12WIWD12WJWD12WKWD12WLWD12WMWD12WN
   WD12WOWD12WPWD12WQWD63W9Y4WA13W9Y5WA13W9Y6WA13W9Y7WA13W9Y8WA13W9Y9WA13W9YAWA13W9YBWA13W9YCWA1
   3W9YDWA13W9YEWA13W9YFWA13W9YGWA13W9YHWA13W9YIWA13W9YJWA13W9YKWA13W9YLWA13W9YMWA13W9YNWA13W9YO
   WA13W9YPWA13W9YQWA13W9YRWA13W9YSWA13W9YTWA13hu1YMhu232Y6Y712YQYTS2YBYP12YGYP12YMY712YMYM13YJY
   JYP12YQY6R2YGY612YGY712YGYLW52Y7YDYJ2hxBhvP12hz5hz5X13hu1wk0hu213hu1ptDhu213hu1pxKhu213hu1tgS
   hu213hu1zVRhu213hu1vaUhu213hu1WVpChu213hu1rX9hu213hu1vzRhu2"

def expansionsAfter (start : Nat) : Nat → List Nat → List (Nat × List Nat)
  | fuel + 1, gap :: count :: rest =>
    (start + gap, rest.take count) :: expansionsAfter (start + gap) fuel (rest.drop count)
  | _, _ => []

def expansions : List (Nat × List Nat) :=
  let numbers := decodeNumbers expansionCode
  expansionsAfter 0 numbers.length numbers

/-! ## The mapping -/

/-- What becomes of a character; nothing if it is not allowed. ASCII letters become small. -/
def mapCharacter? (n : Nat) : Option (List Nat) :=
  if n < 0x80 then some [(Char.ofNat n).toLower.toNat]
  else if kept.contains n then some [n]
  else if leftOut.contains n then some []
  else
    match replacement? n with
    | some replacement => some [replacement]
    | none => expansions.lookup n

end FeatureFlags.Url
