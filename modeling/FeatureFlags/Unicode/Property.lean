import FeatureFlags.Unicode.CodePointSet

/-!
# Properties of characters

The properties that a character has or has not, each with the characters that have it.
-/

namespace FeatureFlags.Unicode

/-- The properties: their names in small letters, and the characters that have them. -/
def propertyTable : List (String × String) := [
  ("ahex asciihexdigit", "WH975Q5"),
  ("alpha alphabetic",
    "X3P6PWG0A0405M1U1jN4BE47010XO0WB41123106012101J1XK1ZE8aA1W6206W9W8D101111108Q43TA5WO16EY817
     4742A220GWGDY7OW191405N2IJO7A5N15HWAAB366XD1F124EDI17212L16103337212110804114C1A04215412L16
     111111444121407310H5B218121L16111438121130F3L34217212L161114372121914114D0G1153213311011313
     23B4432123060W9C121M1F37121281122023S317121M1914371212816113D2CC121W9271212105374M5121H3N18
     1026851017I1DWQ5660WK110141N101I12241060E3W10X171W44I4F1W4X5WN1024GX1A32W610502WB1fM1326101
     32W9132W1132610132E1WP132X4W6FGXN253oU2G1P5XC3A7JBKCJCC1211CWK2IE040X5XQ7WB5X7AU1B48NT24BWC
     4PWNR4X02JWJ0N1B2WIWK1E17WKWA23AWC1AEWNM2AW4287WB22WA31511305b5W8DBdT252W625271010101U2WL16
     10321633254C5216YN0D0GCY8040291034601010131A235440HW9v7WKWwGcB6331CW610502WO70GM96161616161
     616161W0WG0k42P874244XN621XR135WB1Y0HW0WHFlGbvJX2sWMX5WE2dK3FA1KWF573YJW882Y92X1511014OJ1W1
     OWKCX510WD53012AW15W3DS3WJ1BF0GFA41WN9DIM3X61010O22F23B5252596161WB1D6YTLgoBCM4WHdtKgO2YCW7
     6C45B1C141011111YEW2gLIX12WMW9BYN41ZAW5P6PBXQ35252522W4B1P1I111E2DW3YTX7WLdJS3WHWGW0DT5WB5T
     2W44714WBa2IW44W44W88WKCA1E16111A1E1611X5f09LA7O51WA18X75201WC11302MAM9UX3I11ALAPX8WO61X231
     157121SWBS3SW471RRWMALAIDHYHXAWOWJDWJDW8g3WA1131XGSA08LWBHWFKRM9X7WC4AWP90DONWJH38W3309X113
     91A010W4H1W22063X0610131E197WPN317212L161114372121306056a1X31213K2UX32110aTWM26P5W3X01030WS
     WM20X9Q2DL6aUWPYAX1W072027111T112123Y072WE251011RWJ29HX950IXAdF81WD1610WIT2L1DXB6111WC30111
     21021O5111W5111310fHM9G1W932YI0XHyMY9YHHb9Xs1Y3FWYHH5ZaQnOdzFnA7UHXGHTIWGG3W0K5Ir6X1Z4XC4WP
     7GX2110C1EbgS8WdSWB8ee7316111eBF0T220E38hNXhEYD5C387940bc2XM1X8112021231B10161X21327161R131
     410361fT2O1O1U1O1U1O1U1O1U1O17WxFU65bR61G2611145WUW20YJWDA6G0fBTIWCkJRtC613111E1bAWSX53030W
     cQ31Q1110201913101060401010121110201010101011102316131310191G52141Gp8P6P6PYvDWij1W1ZeU6c42a
     zQEct1Yc3mEWmIaZ95Zg6"),
  ("bidic bidicontrol", "WoE0bx71Q4WO3"),
  ("bidim bidimirrored",
    "W91I010S010T010WE0F0YvL3WyP1XmB1A1WN1E1aM0b633530313313101048501H539110172U2350912I5194214N
     2F83K171WZ0DXC023111253523Di0L251D807530441124401221A521CI13201020135162O1B14311214WB271W85
     0103452403410d80lJ33111E129WC7iO927Wsy4551a71I010S010T0101111WvhA0WQ0WQ0WQ0WQ0"),
  ("ci caseignorable",
    "W8060B0W4010X9040104021l7b541409110d36bL050WIWD10111110WD0B5AA10W40AKG0Y871913W2010UQXTAWRA
     4020ONWC2WD07167WAWQWO010474036A1D0F0WR04380K1Q021WQ041412230U130B1WQ0441140K1M510WR0201380
     71B1U0WU0C0WJ030WO012521371B1T0WR0206051K1S1WQ14380K1T0XA07210XS026B8Y50289016XB1R01010WOD1
     4115A1W490Y93151121P142G3D02160F0Y10oJ2zG2T1U1U1X2116802A3050WE4WK0X31W30YP2419062c2120WR01
     61010276920W808UWI3WH0141050W98C1W132112WP0113012WR721X25XK21C16406031WJX0D0W3Y7jB012B2D2D2
     D1C481A02024WI41910D0GCWKW1YXA1YK2Z10F0Y3W0WG0k40W533450Y05Y02ynB0WeA5dM0Y531910S3XI1EW2XG0
     N2YA231803040P150ZR1QHD0W77PAWF2WH02321H0L1X452121C080W40B0WK012215110R0E15110Y7492YS02040q
     XT0ZNGnFF30CFW3020aE07060B0W4010WG0WE1X50L2lH0c90ZP4WX651WA18nO21153W9240aA1nF3hF1XI2X8AWI3
     YU0WNEWA021A2WI3212040A0WJ2W5417X00C1WL8A320Y2220116020a2037L1WQ130W6634b972210N0XM5104111c
     L36111R1XN72011YD0102510Y822314dB811d811040ZK32140W19W9523809522WFC11i361510XKL261111YT5301
     11610XA13010g61B1WL45010amPG6EjlS4WS693WXC0X1GX2111mWR31611Yg6113ZwJWE2MmH29F26U3ZO2XWQWN4W
     I80E0M41EWhR61G2611145WUW20a5DgR0WU3lB4WW06YG7Xv74vklS0UY2Z4cM"),
  ("cased",
    "X3P6PWG0A0405M1U1b8134bL1W471U4Y30WB32123106012101J1XK1ZE8aA1W69W9XyIW610502WB13qLXN25Xd887
     WB22X2b5X2dT252W625271010101U2WL1610321633254C5216YN0D0GCY8040291034601010131540235440HW031
     vBWKWwGcB6331CW61050WWcPWEITZ8Y8331WR511014O412vFWB1D6XHqYE6C4WXAP6PWcBXHY3W44W4YNA1E16111A
     1E1611jH0221WA18WdCWJDWJYYDX1rs1X1wW6XM1X8112021231B10161X21327161R131410361fT2O1O1U1O1U1O1
     U1O1U1O17WxF91J65dDWUXdOX5XYDP6P6P"),
  ("cwcf changeswhencasefolded",
    "X3PXS0AM17W10101010101010101010101010101010101010101010101010101010201010101010101011101010
     1010101010101010101010101010101010101011101010111011122311123111101011102011121011307111111
     0101010101010102010101010101010102110121010101010101010101010101010101010101010101010101010
     1010107111201310101010cT0WB0103080601210111G18M0C231101010101010101010101010112110112WJWH01
     0101010101010101010101010101010901010101010101010101010101010101010101010101010101010111010
     1010101020101010101010101010101010101010101010101010101010101010101010101010101010101010101
     01010101010102W6WH0XyJW61050v45Xd887WB22fA0101010101010101010101010101010101010101010101010
     1010101010101010101010101010101010101010101010101010101010101010101010101010101010101010101
     0101010105120101010101010101010101010101010101010101010101010101010101010101010101010101010
     1010101010101010109785A78785B010101087GWG22255225B3C45225eI03160WEFJ0vCPWxBWGWH012201010131
     0208210101010101010101010101010101010101010101010101010101010101010101010101010101010101010
     101010101010801040WWeM010101010101010101010101010101010101010101010J01010101010101010101010
     1010ZB010101010101030101010101010101010101010101010101010101010101010101010101010A010111010
     101040102010301010101010101010101414101010101010101310605010S0xMXHqYE6C4WXAPWdCW8ZCW4a1A1E1
     611Wv3WJYaFW0rt2W0WWpKW2"),
  ("cwcm changeswhencasemapped",
    "X3P6PWR0AM1U1X11XL1C1D2D21104XU1H6Q111011311011142011207020113550A1aB0WB32132106012101J1WF3
     W1141Z88aA1W6AW7XyJW610502WB22qLXN25Xd887WB22aU030G0YKa0201YO252W625271010101U2WL1610321633
     254C5216eI03160R0HW031vBWKWwGYJ11117Y87331CW61050WWcPWEIRZAD2WU9E32241O1Q5143R1wN0SXHqYE6C4
     WXAP6PWcBXHY3W44W4YNA1E16111A1E1611WtQWJDWJYYDX1rs1X1WWoJX5"),
  ("cwl changeswhenlowercased",
    "X3PY8M16W2010101010101010101010101010101010101010101010101010101020101010101010102010101010
     1010101010101010101010101010101010101110103110111223111231111010111020111210113071111110101
     0101010101020101010101010101021101210101010101010101010101010101010101010101010101010101010
     107111201310101010eA0103080601210111G18W408010101010101010101010105020112WJWH01010101010101
     0101010101010101010901010101010101010101010101010101010101010101010101010111010101010102010
     1010101010101010101010101010101010101010101010101010101010101010101010101010101010101010101
     02W6YV6W61050s9XNXe1WB22fA01010101010101010101010101010101010101010101010101010101010101010
     1010101010101010101010101010101010101010101010101010101010101010101010101010101010109010101
     0101010101010101010101010101010101010101010101010101010101010101010101010101010101010101010
     9785A78785B010101087O7878784B4B3C4B4eI03160WEFJ0vCPWxBWGWH012201010131020821010101010101010
     1010101010101010101010101010101010101010101010101010101010101010101010101010101010801040WWe
     M010101010101010101010101010101010101010101010J010101010101010101010101010ZB010101010101030
     101010101010101010101010101010101010101010101010101010101010A010111010101040102010301010101
     010101010101414101010101010101310605010S0sbQPWdCW8ZCW4a1A1E1611Wv3WJYaFW0rt2W0WWpKW2"),
  ("cwkcf changeswhennfkccasefolded",
    "X3PX70701020102322121M17W101010101010101010101010101010101010101010101010101210201010121010
     1011101010101010101010101010101010101010101010101110101011101112231112311110101110201112101
     1307910101010101010201010101010101010231210101010101010101010101010101010101010101010101010
     101010107111201310101010Y48W0524XT11290W1010101030314610111G18M0C71010101010101010101010101
     21110112WJWH0101010101010101010101010101010109010101010101010101010101010101010101010101010
     1010101011101010101010201010101010101010101010101010101010101010101010101010101010101010101
     0101010101010101010101010102W6WH0ZO0XQ3sM7Z0110XL020W3220d51sC0Z30W91WF0WN090404040C0901470
     H090404040C0cDW61050WF0Y51qC5zK1XN4WaK87WB22YF21A1H1RD0W3W5X2010101010101010101010101010101
     0101010101010101010101010101010101010101010101010101010101010101010101010101010101010101010
     1010101010101010101010101010512010101010101010101010101010101010101010101010101010101010101
     01010101010101010101010101010101010109785A78785B010101087101010101010102WG222D2830431230472
     2271F1050C2353111401082D07I2Q1CB0XP3121A112422101010131A15446WG3050a7111d01eUZEWgB0YA2Y80eC
     WGWH012201010131020641010101010101010101010101010101010101010101010101010101010101010101010
     1010101010101010101010101010801040Z00eO0XL0CbRWB0WM012Y3120Y20WIY03DY3U1W88WF1hBziF01010101
     0101010101010101010101010101010101010J01010101010101010101010101011Z80101010101010301010101
     0101010101010101010101010101010101010101010101010101010801011101010104010201030101010101010
     1010101414101010101010101310605010P321wT3906XHpmTdL2010291010213X52YCW76C4501N141011111YEW2
     gLIX12WMW9C3PMK2B1I1342101ZA201b335252522361618WX8W8ZCW4a1A1E1611kQ41WA18WdCWJYaFW0rt2W0pv6
     3al56E7X25nHXM1X8112021231B10161X21327161R131410361fT2eC2WIXaJWUXdOW2We631Q1110201913101060
     401010121110201010101011102316131310191G52141GnMA5U1W0Q2W40YI2DWC4871XmD9XaZ7mEtcr9Zd3"),
  ("cwt changeswhentitlecased",
    "Y4PWR0WAN1710101010101010101010101010101010101010101010101010101010201010101010101110101010
     1010101010101010101010101010101010101020101220102030502031302010102040203010203010401111101
     0101010101010111010101010101010121010301010101010101010101010101010101010101030101010101010
     10108021104010101015111011311011142011207020113550A1aB0WC0103032I0RW31132101010101010101010
     101014102020WLWG101010101010101010101010101010101090101010101010101010101010101010101010101
     0101010101010201010101010111010101010101010101010101010101010101010101010101010101010101010
     10101010101010101010101010101010WIW7Yv75Xd88cN030G0YL01010101010101010101010101010101010101
     0101010101010101010101010101010101010101010101010101010101010101010101010101010101010101010
     1010101010101010101650101010101010101010101010101010101010101010101010101010101010101010101
     010101010101010101010101885A78785A7878D2787878411603211832187A211g10W2F40w6PWy2WG1031101010
     6020A01010101010101010101010101010101010101010101010101010101010101010101010101010101010101
     0101010101010801040CW61050WWcQ010101010101010101010101010101010101010101010J010101010101010
     101010101010ZB010101010101030101010101010101010101010101010101010101010101010101010101010A0
     10201010101040401120101010101010101010B0101010101010104010605010S0wN0SXHqYE6C4WYBPWdKW8ZCW4
     a0A1E1611WvSWJYZEW0rt2W0WWpMW2"),
  ("cwu changeswhenuppercased",
    "Y4PWR0WAN1710101010101010101010101010101010101010101010101010101010201010101010101110101010
     1010101010101010101010101010101010101020101220102030502031302010102040203010203010511111101
     0101010101011101010101010101011111030101010101010101010101010101010101010103010101010101010
     108021104010101015111011311011142011207020113550A1aB0WC0103032I0RW3113210101010101010101010
     1014102020WLWG10101010101010101010101010101010109010101010101010101010101010101010101010101
     0101010101020101010101011101010101010101010101010101010101010101010101010101010101010101010
     101010101010101010101010101010WIW7YV5WB22tG5Xd88cN030G0YL0101010101010101010101010101010101
     0101010101010101010101010101010101010101010101010101010101010101010101010101010101010101010
     1010101010101010101010165010101010101010101010101010101010101010101010101010101010101010101
     0101010101010101010101010101885A78785A7878D2WL114010321140332187A21140fR0W2F40w6PWy2WG10311
     010106020A010101010101010101010101010101010101010101010101010101010101010101010101010101010
     101010101010101010801040CW61050WWcQ010101010101010101010101010101010101010101010J0101010101
     01010101010101010ZB010101010101030101010101010101010101010101010101010101010101010101010101
     010A010201010101040401120101010101010101010B0101010101010104010605010S0wN0SXHqYE6C4WYBPWdKW
     8ZCW4a0A1E1611WvSWJYZEW0rt2W0WWpMW2"),
  ("dash", "WE0Wi80WK0YtM0WX60XZB5WU0W80F0hI0Yb7020W0140S0jC0J0YI0WssH1W60A0aE0Za00"),
  ("di defaultignorablecodepoint",
    "aI0qM0s30XzU1Wq71XN4XYS4Q4WIFZl00WskKFcM0a50XH8WocS3alQ7vtrTZd3"),
  ("dep deprecated", "fJ0WgJ0XhD010XaC1XfD5rF1zkgG0"),
  ("dia diacritic",
    "Y1010X90604021l7a31755H14091d54bN0WOG1Q101110ZA741ZA14132X5QXTAWRAW31Z27WA9GRWU0G033S0XC0G0
     YH0G0YH0G0WG2WT0G070YQ0YH0G0YH0G0YG1G0Z00Z0510YE0D4XD1R0101041X4211X00YJ011W9144P610A1rN2zI
     1aOA90g62f3720WHE2AYB0F0W78WN1ZE1X25XKO406022WJX0XRBW6AjB012B2D2D2D1YiQ2f70lA5YC3Y20WVdR0C1
     10S1XK1EW2Y92YG1bG0RHWQ3W50Y20C0W50ZP2X33WK0Y7492Z41qXT0tPFdM010WG0WE1X50tK0Wc551WA18v41nD5
     k42X8AWI3b60WA0XA1YR1X00XE092YB1aN1XJ0G0O634bJ030YU1d31Z20YP1YM0dL1dA140a10XL0I0XJ0iI0dA011
     XJ0bWAEjlS4WS6WZRGXI1mWE31611dd1WE2MmH2358726U3YvPWUb86h30WU3WmG6YG212"),
  ("emoji",
    "W406059YI040dhH0C0bU0M0XS5F1gQ1C0aB0PA42bD0cE1A090WR314902021204020112030318250105BB1201110
     I021I5101131502141B15120511011K155132040202510201010603060A1F02040104210B1WH290E0E0h01jT2J1
     WK040We20C0oC010Yup80bG0a51C1E029XDP11N0K028L1aJW22YI21122XK221dE1X0B51N7127C0232041D120819
     052C28220104060306XNWHX757224930113029cAB40e4WF191aTYJC387WE168D4878"),
  ("ecomp emojicomponent", "W406059djP0bR0WwxD0XXyJPlB4WkU3vjWPY2"),
  ("emod emojimodifier", "ZeaR4"),
  ("ebase emojimodifierbase",
    "fZN0c20G3YypH0WT22022YO12ALI3042127010O0bF140L041aJ234XL0G290B0nH02087609922WP0WU11110H21Cc
     C2WB8"),
  ("epres emojipresentation",
    "efR1bJ33020lP1L1WJBWC0J0D081H1518050L0711040207041S0W40104210WU2O0E0wM1WK040Ywn80bG0b4029XD
     P10O0K02412L1aJW1C81X71LCWB44CG303X8101b02X0D31NI0Q1D0XOXMWHX760322243B178cAB40e4WF191aTYJC
     387WE168D4878"),
  ("extpict extendedpictographic",
    "aE040dhH0C0bU0M0XS5F1gQ1C0Y20X80PA42bD0cE1A090WR3151B1YKAYO2A1010603060A1F02040104210B4WE29
     0E0E0h01jT2J1WK040We20C0oC010Yup4d7D2W00WT5C1E029IWPREA0K028139iU5f78dHWHZ3YNBXNWBC3WP7A5W9
     7UXJCWF191j6d8WWT"),
  ("ext extender",
    "aS0m91xA0j70wL0t80Z30XjF0WP0oM0hQ0X60abA0WC4YA1Y02ynB0Wn70WV10M0ZD0YF0L1rkK0XZI1YZR0oR2WdM0
     qk31Wc2110zb01XZ82"),
  ("grbase graphemebase",
    "W1Y1W2C1o4YJ72546101J1c67aA1W62WI22WF01020209Q45H9B01WELF1Y78061204W0201TTXQB0EWB963N409030
     7E1O501A5UHWAWQWN10138312792S1117212L1610333011612110D1124N5015412L1611111142O310792210C018
     121L16111433801130F14B708117212L16111430206121F1124HB015321331101131323B5011321230LK6217121
     M1F3033J2202149791A121M19143111112111H1114912EA121W9201152121142194P211H3N18102691667922CWG
     11B78CW6110141N1019119024109923W1N2Q10101D1W4I05024WI7151CW6WD4060212O233F4C11251E1W810502h
     4132610132W9132W1132610132E1WP132X45S3P6XN252qH3XQ7H309I229HEC12FWK207711B839696A596XQ742W2
     105X7AU43224115703WA24BWC4P6A3WP213WO10901185D9696DXOWG7014193Q9A3W041203WO102210318WG815E3
     WS7WB2AB0D0731512205b5X2dT252W625271010101U2WL1E1D251I22181A5N7WHG12Q1C3W1X1ZF4qBPALWwD2W01
     g2315WD10502WO71FM9616161616161616W2Y0W3P1XQCbRQB4WA6F1XN4Y75WB1Y01XLCWF1zjS3WN9g6KWF40AW02
     XH258bG511014OF12131O24496WO8X5ABOC1W68OB1BT6WG11412F1A461O1W96121B21710292W01WJ1031242010O
     G27B5252596161WS4YN1113396goBCM4WHdtKgO2YCW76C4501N141011111Z0GjA2WM70W1FG9MW31I13441ZA4a12
     U352525223616D12B1P1I111E2DW3YT524WD3XP1C30WGWDZ7S3WHGQ4W49T5W6AT1W54DWBa2296W44W44W88WKBB1
     E16111A1E1611X5f09LA7O51WA18X75201WC11302M1X988WHI115W13Q50X2WO4J2WFF3121SA8787X1W1W56B9WM3
     S2Q5P73C6XIXAWOWJDWJ7WAC9eFU1WA3021XGW88LB8MH43W7RKM901WMF64T1120CWH412113EO799W4509H8W312B
     WK99411F1JBH1R31102511X1610131E1A6WF12D98117212L161114301013212220C6a1WO81301K1012UWG116011
     10202389aBWF1163202QW5WJ811023B96CJWB1011601169WNQ51409MaUWF9020Y7XKC72027111N141140131299X
     872WA8313R0AW8614790613WED028DXA79cT81W6E015AS3W0P07020XD6111W6L09965111W541101079f0I239E1W
     481101MXO0FWIDyNY9YH14Bb9Xs1Y5DWYHH5ZaQnOdzFnA7U194XI196T70AWG7EA9161K5Ir6XSY8XC5WOBCX23C1E
     bgS8WdSWB8ee7316111eBF0T220E38hNXhEYD5C38792020ZzAYMWTcSAW72WS1033L17T4WTLX330YTJCJCXO9OZBX
     M1X8112021231B10161X21327161R131410361fT2eC2n3WO3WJ71D16WaOU65dDWUZMWDA62941fATIWC4950jUR49
     sT613111E1bA28WHX5704941uAX5XEWTb831Q111020191310106040101012111020101010101110231613131019
     1G52141GWL1dMWC4Y6CE2E1E1W5AaIWPSDWC4871E5ZUWVM4G3C3YP4Y16B40FB4WO896W88T21XGfTCD2C387WE168
     D48787ZM1WNW69WX7Wij1W1ZeU6c42azQEct1Yc3mEWmIaZ95Zg6"),
  ("grext graphemeextend",
    "tOYIdR6dFWD10111110XAAWHKG0Y86252113W40UQXTAWR890O3181214WC2WT7WBN1W0WO010474036A1T0WR01023
     8090A1Q021WQ041412230U130B1WQ0441140K1M510WR011138072A1U0WS010C090W9030WO012521371B1T0WR020
     20305171B1S1WQ110238090A1T0XA040221080XJ026C7Y5028B6XB1R01010WOD14115A1W490Y93151121P142G3D
     02160F0rL2zG2T1U1U1X2116802A90WE210YO1W30YP2419062c2120WR0161010276920WHUWI3WH61050W98C1W13
     2112WP0113012WR721ZS21C16406031bCX1lS0b9W1Yb12ZH0Y3W0mR5YC1WVh1319W11XI1dO03040P150ZR1QHD0W
     77PAWF2WH02321W80X552121C080WG0WK012215110WB180cL02040qXT0sOFGFgP1oG0c90ZP4WrR21153W9240aA1
     nF3hF1XI2X8AWI3YU0WNEWA021A2WI32170WU2W5417X00C1WL8A320Y2220116020a2037L1WQ11010M0E634b9722
     10N0XJ02510201111cI0236111R1XN72011YD0102510Y822314dB811cS0A11040ZK32140W19W9523809522WFC11
     i361510XKL261111YT530111610XA13010g61B1WL45010anA06EjlS4WS6WXP0X13XJ0piH1ZwOWE2MmF012448726
     U3ZO2XWQWN4WI80E0M41EWhR61G261114Y70a56h30WU3lC3WW06YG6vniAY2Z4cM"),
  ("hex hexdigit", "WH975Q5Xav0975Q5"),
  ("idsb idsbinaryoperator", "hsR127"),
  ("idst idstrinaryoperator", "hsT1"),
  ("idc idcontinue",
    "WH97P401PWG0A010205M1U1jN4BE47010HYN11231064101J1XK1ZE142aA1W6206W98WD101111108Q43TA5XB4Y81
     7291I20GWR2Y7EWM40202WEIR4A5N159XB1Z4291I17212L1610332821238041142BA0102215412L161111112014
     41223073107FB218121L16111429121220F329961217212L1611142821227241142910G115321331101131323B4
     432132060E9GC121M1F2812137112202329G317121M19142812137161132912CC121WJ1214537429A5121H3N181
     026304510176921DWQ5E19W8110141N101M2410161923W10N169B01010491W44J1H1W490WQXB6XF2W610502WB1f
     M132610132W9132W1132610132E1WP132X42298EFGXN253oU2G1P5XC3A7L9LBJCC1211CXL304129W221A6XQ7WB5
     X7AU1B4BAW824BWC4P6AW6R4X01S2A69D08D1FWIXE39H8CYMCWO893WH287WB22G21W75m6252W625271010101U2W
     L1610321633254C5216X41J0S0D0GCWKC403BH0402910256010101F235440HW9XtDcB68CW610502WO70FN961616
     16161616161W0lL2PE14244XN261XR135WB1Y0HW0WHFlGbvJX2sWMX5WE2dK3RKWG491YLW682Y92X1511014OWM40
     JWKCX7A96N301WH2W4CS3X2EA6U1WN9D296M3XAO22F24A5252596161WB1D6YT11296goBCM4WHdtKgO2YCW76C45B
     1C141011111YEW2gLIX12WMW9B4FGF31O2W141ZAJ97P401PBXQ35252522W4B1P1I111E2DW3YTX7WLZC0Z6S3WHF0
     W0W0DT5WB5T2W44714WBa2296W44W44W88WKCA1E16111A1E1611X5f09LA7O51WA18X75201WC11302MAM9UX3I11A
     LAPX8WO61X231157121S2240W1S3SW471TPWMALAIDHYHXAWOWJDWJDW889fGWA1131XDW0A08W1W0LWBKRM9X8W0F9
     WS70DO796WL19438W4209X6431C10W4H1W563X0610131E197WR596317212L1611141921222060562634ZFXC5943
     UX71089aBWM28N5W3X230B9W7WP79WNQ2E4966aUWRY8XBL72027111T1128C9X872WE2711RX0808XB30IXAdF81WD
     18F9OT2L1DXB6111WC3011188965111W5111579f0M9G1W934D9XO0XHyMY9YHHb9Xs1Y3FWYHGLZaBnOdzFnA7U196
     XG196T24BWN93C99K5Ir6X1Z4XC4WP7GX2111B1EbgS8WdSWB8ee7316111eBF0T220E38hNXhEYD5C387931ZwOWE2
     MmF4358726U3ZO2j9XM1X8112021231B10161X21327161R131410361fT2O1O1U1O1U1O1U1O1U1O172WIlGWN4WI8
     0E0M41EWZJU65bR61G2611145WUW20YJWD3D2940fBUHWQk5WAsT613111E1bAB6WAXD49WcC31Q111020191310106
     0401010121110201010101011102316131310191G52141GYl19WX7Wij1W1ZeU6c42azQEct1Yc3mEWmIaZ95Zg6sw
     x8cM"),
  ("ids idstart",
    "X3P6PWG0A0405M1U1jN4BE47010Z541123106012101J1XK1ZE8aA1W6206W9X9Q43WEWBW411Y510F171A220G01TT
     XQB0OW191405L409030NO7A5N15HWAWRWM30I079FF47212L16103330G0D112E1A085412L16111111W0310J2G812
     1L16111430I0F1N0B7212L16111430U112F0H015321331101131323BM0WL7121M1F30Q22021U047121M191430W0
     111F1H8121W920G05282O55H3N181026WRWG11C6WR110141N101911902410L3W10X171W4R4YMWBK0G5433031724
     CC0HW610502WB1fM132610132W9132W1132610132E1WP132X4W6FGXN253oU2G1P5XC3A7HDIEHEC12FWKW4040X5X
     Q7W9105X7AUWIT24BWC4PWNM9WLXK0Y0WFH7WNTD1AWCQW4WA2AW4287WB22WA31511305b5X2dT252W62527101010
     1U2WL1610321633254C5216YN0D0GCY80402910256010101F235440HW9XtDcB6331CW610502WO70GM9616161616
     161616mN2P874244XN441XR135WB1Y0HW0WHFlGbvJX2sWMX5WE2dK3FA1KWFGU2XHW882Y92X1511014OF12131MTW
     KEWIX053011BRAMPS7WFS0G419A41W9N217KM303WI1031242010O22A72C5252596161WB1D6YLTgoBCM4WHdtKgO2
     YCW76C450191C141011111YEW2gLIX12WMW9BYN41ZAW5P6PBXQ35252522W4B1P1I111E2DW3YTX7WLdJS3WHWGW0D
     T5W6AT2W44714WBa2IW44W44W88WKCA1E16111A1E1611X5f09LA7O51WA18X75201WC11302MAM9UX3I11ALAPX8WO
     61X20F3121SWBS3SW471RRWMALAIDHYHXAWOWJDWJDW4g7WA61XGSA08LWBHWFKRMCWLWQ120DWDW1OQW4T0208W330
     CWGE3L010W4H1OJ1X1610131E197WFW77212L16111430I0C4a3WLI3K2UWGK110aTWFWA3W5WGK0WSWBD0X9QW66aU
     WCYNX1W072027111NF010Y172W7G010S0AW870L0BWEJ0IXAdF81W5H0WITYJ6111W6L0P5111W0E0fHIF01C1W2Z00
     XHyMY9YHHb9Xs1Y3FWYHH5ZaQnOdzFnA7UHXGHTIWGG3W0K5Ir6X1Z4XC50X4CX2110SbgS8WdSWB8ee7316111eBF0
     T220E38hNXhEYD5C3879bc7XM1X8112021231B10161X21327161R131410361fT2O1O1U1O1U1O1U1O1U1O17WxFU6
     5dDWUZMWDA6G0fBTIWCkJRtC613111E1bAWSX570WcQ31Q111020191310106040101012111020101010101110231
     6131310191G52141GZnIWij1W1ZeU6c42azQEct1Yc3mEWmIaZ95Zg6"),
  ("ideo ideographic",
    "htI1P8E2WV4bvJX2qv4sqUgO2YCWVaG0RbgS8WdSWB8eqJhNpl0Wij1W1ZeU6c42azQEct1Yc3mEWmIaZ95Zg6"),
  ("joinc joincontrol", "dlK1"),
  ("loe logicalorderexception", "YtL4YU4XxA220Wco712011"),
  ("lower lowercase",
    "Y4PWG0A040W5N171010101010101010101010101010101010101010101010101010101110101010101010111010
     1010101010101010101010101010101010101010102010122010203140203220201010201110203010212260202
     0101010101010101110101010101010101120103010101010101010101010101010101010101010101010101010
     10101016202110401010101X61W471U4Y30WC0103023I0RW31132101010101010101010101014102021WKWG1010
     1010101010101010101010101010109010101010101010101010101010101010101010101010101010102010101
     0101011101010101010101010101010101010101010101010101010101010101010101010101010101010101010
     101010101010WHW9YV4WB13tG5Xd88YQb5X30101010101010101010101010101010101010101010101010101010
     1010101010101010101010101010101010101010101010101010101010101010101010101010101010101010101
     0181010101010101010101010101010101010101010101010101010101010101010101010101010101010101010
     101010101885A78785A7878D2787878411603211832187A211YS0D0GCYG03130R04040218340W2F40w6PWy2WG10
     3110101040111730101010101010101010101010101010101010101010101010101010101010101010101010101
     01010101010101010101011701040CW61050WWcQ010101010101010101010101010101010101010101010J01010
     1010101010101010101012Z90101010101012101010101010101010101010101010101010101010101010101010
     1010101910102010101010401020121010101010101010101050501010101010101040106010101010O21012vFW
     B1D6XHqYE6C4WYBPWdKW8ZCW4a0A1E1611jH0221WA18WfEWJYZEW0rt2W0wX1PQ61HQPQ310161AQPQPQPQPQPQPQP
     QPQRSO15QO15QO15QO15QO1510WxF91J65dDWUXeRW2"),
  ("math",
    "WC0G2W00T010WE040W60W00sF220Q122m02by40R2B030D0E3L4B4X3C403144I04029102560312112153D10X6N15
     11414W01061EdJ83K1XS0UQ10O0B6jB1C945412134E01025B751WQ010T392fQX1d8lFWHK25WtgG0vH510a70G2T0
     10T010Z7063WukAXM1X8112021231B10161X21327161R131410361fT2eC2WIavL31Q11102019131010604010101
     21110201010101011102316131310191G52141GWL1"),
  ("nchar noncharactercodepoint",
    "Xao0W0lU1Xbb01Xbb01Xbb01Xbb01Xbb01Xbb01Xbb01Xbb01Xbb01Xbb01Xbb01Xbb01Xbb01Xbb01Xbb01Xbb01"),
  ("patsyn patternsyntax",
    "W2EA6Q310Q3W3610111011404030N0W00ddON8E2I19eQs6a5p9UWaFlGZ3hD24OF0WsoA1dD1"),
  ("patws patternwhitespace", "94I0Y70dhC1O1"),
  ("pcm prependedconcatenationmark", "WnH5bT0WI0hC1XI0XddS0F0"),
  ("qmark quotationmark", "W3040Z70F0dfU7P1YrQ0jN3D2Wsx73b3040XS1"),
  ("radical", "hh0P1XQCbR"),
  ("ri regionalindicator", "ZdoLP"),
  ("sterm sentenceterminal",
    "W20C0G0WhK0ZN2aP0WC2cT0WU01031eE1WuS1uF041tT0bC1bI050f41gD3aJ121T1b21X31zQ192YqM0D0M1iQ0WVa
     20dM1cA030hA1XO1Y20ZS1ZN2ZK1d10qyE031aE0C0G0X30XxE1Wf64WD3b31YO3Z32Z5160G1XQ111YF0iE1h115EY
     C1d12lL010d31XP1iH1rA1XC1pVL1Z90X31B0wE0ptA0cyU0"),
  ("sd softdotted",
    "YC1bA0e20U0WL0K0fA0Y5010bpN0WK0D030Z80a20iI0bS1XzE0YovF1WJ1WJ1WJ1WJ1WJ1WJ1WJ1WJ1WJ1WJ1WJ1WJ
     1XdC0eQ1Q0"),
  ("term terminalpunctuation",
    "W20A010B130vO080lH0WQ0XA0E012aP0WCA10cI1WNEW00dD1WeS1aH045f11uE7tT0Z02X91a2230W8321f41gD3aJ
     112T1b24X01zQ192YqM0D040A01131iP1WVa11dL2cA4hA1XO1Y20ZR2ZN2Z30G1d10qyC213aE0A010B130X3020WY
     S0WH0WbB0bD0f01ZS5X65XR3zM4WD3b36YJ3Z32Z5160G1XQ4YF0iE2C1gH33EYC1d12lL010d31XP141iB2WE0pP1X
     C1WgL4noQ1Z90X32A0wD1ptA0cyT3"),
  ("uideo unifiedideograph", "ivDbvJX2qv4szL11011A0101122Xcs8Wij1W1ZeU6c42azQEct1ag5aZ95Zg6"),
  ("upper uppercase",
    "X3PY8M16W2010101010101010101010101010101010101010101010101010101020101010101010102010101010
     1010101010101010101010101010101010101110103110111223111231111010111020111210113070202020101
     0101010101020101010101010101020201210101010101010101010101010101010101010101010101010101010
     107111201310101010eA0103080601210111G18W40223010101010101010101010105020112WJWH010101010101
     0101010101010101010109010101010101010101010101010101010101010101010101010101110101010101020
     1010101010101010101010101010101010101010101010101010101010101010101010101010101010101010101
     0102W6YV6W61050s9XNXe1WB22fA010101010101010101010101010101010101010101010101010101010101010
     1010101010101010101010101010101010101010101010101010101010101010101010101010101010101090101
     0101010101010101010101010101010101010101010101010101010101010101010101010101010101010101010
     109785A78785B010101087XA3C3C3C4B3dE040322220346010101323A150QFJ0vCPWxBWGWH01220101013102082
     1010101010101010101010101010101010101010101010101010101010101010101010101010101010101010101
     0101010801040WWeM010101010101010101010101010101010101010101010J010101010101010101010101010Z
     B010101010101030101010101010101010101010101010101010101010101010101010101010A01011101010104
     0102010301010101010101010101414101010101010101310605010S0sbQPWdCW8ZCW4a1A1E1611Wv3WJYaFW0rt
     2W0wX7PQPQPQ01120212317QPQ1132716R113141036RPQPQPQPQPQPUOW2OW2OW2OW2OW20Zn3W2XZGP6P6P"),
  ("vs variationselector", "bhH210WzcQFxof3cM"),
  ("wspace whitespace space", "94I0Y70Q0auJ0XlDAT150WG0Za10"),
  ("xidc xidcontinue",
    "WH97P401PWG0A010205M1U1jN4BE47010HYN11321064101J1XK1ZE142aA1W6206W98WD101111108Q43TA5XB4Y81
     7291I20GWR2Y7EWM40202WEIR4A5N159XB1Z4291I17212L1610332821238041142BA0102215412L161111112014
     41223073107FB218121L16111429121220F329961217212L1611142821227241142910G115321331101131323B4
     432132060E9GC121M1F2812137112202329G317121M19142812137161132912CC121WJ1214537429A5121H3N181
     026304510176921DWQ5E19W8110141N101M2410161923W10N169B01010491W44J1H1W490WQXB6XF2W610502WB1f
     M132610132W9132W1132610132E1WP132X42298EFGXN253oU2G1P5XC3A7L9LBJCC1211CXL304129W221A6XQ7WB5
     X7AU1B4BAW824BWC4P6AW6R4X01S2A69D08D1FWIXE39H8CYMCWO893WH287WB22G21W75m6252W625271010101U2W
     L1610321633254C5216X41J0S0D0GCWKC403BH0402910256010101F235440HW9XtDcB68CW610502WO70FN961616
     16161616161W0lL2PE14244XN21221XR135WB1Y0HW0WHFlGbvJX2sWMX5WE2dK3RKWG491YLW682Y92X1511014OWM
     40JWKCX7A96N301WH2W4CS3X2EA6U1WN9D296M3XAO22F24A5252596161WB1D6YT11296goBCM4WHdtKgO2YCW76C4
     5B1C141011111YEW2ZE6c0IX12WMW996FGF31O2W2010301010101Z1J97P401PBXQ35252522W4B1P1I111E2DW3YT
     X7WLZC0Z6S3WHF0W0W0DT5WB5T2W44714WBa2296W44W44W88WKCA1E16111A1E1611X5f09LA7O51WA18X75201WC1
     1302MAM9UX3I11ALAPX8WO61X231157121S2240W1S3SW471TPWMALAIDHYHXAWOWJDWJDW889fGWA1131XDW0A08W1
     W0LWBKRM9X8W0F9WS70DO796WL19438W4209X6431C10W4H1W563X0610131E197WR596317212L161114192122206
     0562634ZFXC5943UX71089aBWM28N5W3X230B9W7WP79WNQ2E4966aUWRY8XBL72027111T1128C9X872WE2711RX08
     08XB30IXAdF81WD18F9OT2L1DXB6111WC3011188965111W5111579f0M9G1W934D9XO0XHyMY9YHHb9Xs1Y3FWYHGL
     ZaBnOdzFnA7U196XG196T24BWN93C99K5Ir6X1Z4XC4WP7GX2111B1EbgS8WdSWB8ee7316111eBF0T220E38hNXhEY
     D5C387931ZwOWE2MmF4358726U3ZO2j9XM1X8112021231B10161X21327161R131410361fT2O1O1U1O1U1O1U1O1U
     1O172WIlGWN4WI80E0M41EWZJU65bR61G2611145WUW20YJWD3D2940fBUHWQk5WAsT613111E1bAB6WAXD49WcC31Q
     1110201913101060401010121110201010101011102316131310191G52141GYl19WX7Wij1W1ZeU6c42azQEct1Yc
     3mEWmIaZ95Zg6swx8cM"),
  ("xids xidstart",
    "X3P6PWG0A0405M1U1jN4BE47010Z541132106012101J1XK1ZE8aA1W6206W9X9Q43WEWBW411Y510F171A220G01TT
     XQB0OW191405L409030NO7A5N15HWAWRWM30I079FF47212L16103330G0D112E1A085412L16111111W0310J2G812
     1L16111430I0F1N0B7212L16111430U112F0H015321331101131323BM0WL7121M1F30Q22021U047121M191430W0
     111F1H8121W920G05282O55H3N181026WRWG10D6WR110141N101910A02410L3W10X171W4R4YMWBK0G5433031724
     CC0HW610502WB1fM132610132W9132W1132610132E1WP132X4W6FGXN253oU2G1P5XC3A7HDIEHEC12FWKW4040X5X
     Q7W9105X7AUWIT24BWC4PWNM9WLXK0Y0WFH7WNTD1AWCQW4WA2AW4287WB22WA31511305b5X2dT252W62527101010
     1U2WL1610321633254C5216YN0D0GCY80402910256010101F235440HW9XtDcB6331CW610502WO70GM9616161616
     161616mN2P874244XN621XR135WB1Y0HW0WHFlGbvJX2sWMX5WE2dK3FA1KWFGU2XHW882Y92X1511014OF12131MTW
     KEWIX053011BRAMPS7WFS0G419A41W9N217KM303WI1031242010O22A72C5252596161WB1D6YLTgoBCM4WHdtKgO2
     YCW76C450191C141011111YEW2ZE6c0IX12WMW99YQ010301010101Z1W5P6PBWO2U35252522W4B1P1I111E2DW3YT
     X7WLdJS3WHWGW0DT5W6AT2W44714WBa2IW44W44W88WKCA1E16111A1E1611X5f09LA7O51WA18X75201WC11302MAM
     9UX3I11ALAPX8WO61X20F3121SWBS3SW471RRWMALAIDHYHXAWOWJDWJDW4g7WA61XGSA08LWBHWFKRMCWLWQ120DWD
     W1OQW4T0208W330CWGE3L010W4H1OJ1X1610131E197WFW77212L16111430I0C4a3WLI3K2UWGK110aTWFWA3W5WGK
     0WSWBD0X9QW66aUWCYNX1W072027111NF010Y172W7G010S0AW870L0BWEJ0IXAdF81W5H0WITYJ6111W6L0P5111W0
     E0fHIF01C1W2Z00XHyMY9YHHb9Xs1Y3FWYHH5ZaQnOdzFnA7UHXGHTIWGG3W0K5Ir6X1Z4XC50X4CX2110SbgS8WdSW
     B8ee7316111eBF0T220E38hNXhEYD5C3879bc7XM1X8112021231B10161X21327161R131410361fT2O1O1U1O1U1O
     1U1O1U1O17WxFU65dDWUZMWDA6G0fBTIWCkJRtC613111E1bAWSX570WcQ31Q111020191310106040101012111020
     1010101011102316131310191G52141GZnIWij1W1ZeU6c42azQEct1Yc3mEWmIaZ95Zg6")]

/-- The characters that have a property. -/
def property? (name : String) : Option CodePointSet :=
  (entryOf? propertyTable name).map CodePointSet.ofCode

end FeatureFlags.Unicode
