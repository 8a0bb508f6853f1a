import FeatureFlags.Unicode.CodePointSet

/-!
# General categories

The general category of a character says whether it is a letter, a mark, a number and so on.  The
table gives the characters of each elementary category under the category's names; a character
that is in none of them is unassigned.  A larger category such as "letter" is the union of those
whose short names begin with the same letter.
-/

namespace FeatureFlags.Unicode

/-- The elementary categories: their names in small letters, and their characters. -/
def categoryTable : List (String × String) := [
  ("lu uppercaseletter",
    "X3PY8M16W2010101010101010101010101010101010101010101010101010101020101010101010102010101010
     1010101010101010101010101010101010101110103110111223111231111010111020111210113070202020101
     0101010101020101010101010101020201210101010101010101010101010101010101010101010101010101010
     107111201310101010eA0103080601210111G18W40223010101010101010101010105020112WJWH010101010101
     0101010101010101010109010101010101010101010101010101010101010101010101010101110101010101020
     1010101010101010101010101010101010101010101010101010101010101010101010101010101010101010101
     0102W6YV6W61050s9XNXe1WB22fA010101010101010101010101010101010101010101010101010101010101010
     1010101010101010101010101010101010101010101010101010101010101010101010101010101010101090101
     0101010101010101010101010101010101010101010101010101010101010101010101010101010101010101010
     109785A78785B010101087XA3C3C3C4B3dE040322220346010101323A150WU0XtIWGWH012201010131020821010
     1010101010101010101010101010101010101010101010101010101010101010101010101010101010101010101
     010801040WWeM010101010101010101010101010101010101010101010J010101010101010101010101010ZB010
     101010101030101010101010101010101010101010101010101010101010101010101010A010111010101040102
     010301010101010101010101414101010101010101310605010S0sbQPWdCW8ZCW4a1A1E1611Wv3WJYaFW0rt2W0w
     X7PQPQPQ01120212317QPQ1132716R113141036RPQPQPQPQPQPUOW2OW2OW2OW2OW20Zn3W2"),
  ("ll lowercaseletter",
    "Y4PWR0WAN1710101010101010101010101010101010101010101010101010101011101010101010101110101010
     1010101010101010101010101010101010101020101220102031402032202010102011102030102122602020101
     0101010101011101010101010101011201030101010101010101010101010101010101010101010101010101010
     1016202110401010101X61Qb70103032I0RW31132101010101010101010101014102021WKWG1010101010101010
     1010101010101010109010101010101010101010101010101010101010101010101010102010101010101110101
     0101010101010101010101010101010101010101010101010101010101010101010101010101010101010101010
     WHW9YV4WB22tG5Xd88YQWCX1C1W2Y90101010101010101010101010101010101010101010101010101010101010
     1010101010101010101010101010101010101010101010101010101010101010101010101010101010101018101
     0101010101010101010101010101010101010101010101010101010101010101010101010101010101010101010
     101885A78785A7878D2787878411603211832187A211dQ03130R04040218340WM0Xv3WG10311010104011155010
     1010101010101010101010101010101010101010101010101010101010101010101010101010101010101010101
     01011701040CW61050WWcQ010101010101010101010101010101010101010101010J01010101010101010101010
     1010ZB0101010101012101010101010101010101010101010101010101010101010101010101010101710102010
     101010401020121010101010101010101050501010101010101040106010101010S030vFWB587XHqYE6C4WYBPWd
     KW8ZCW4a0A1E1611WvSWJYZEW0rt2W0wX1PQ61HQPQ310161AQPQPQPQPQPQPQPQPQRSO15QO15QO15QO15QO1510Wx
     F91J65Xp9W2"),
  ("lt titlecaseletter", "jJ02020W70cw978787C0F0WG0"),
  ("lm modifierletter",
    "r6H4BE47010Z9050kD0cD0a91dL140W009030a50aC0WdR0Z30n70WuI0YE0oM0jU5aJX0D0W3W5r70D0GCYa11cO0b
     50k40WC450Y41Y02ynB0WeA5dM0YL0S1YS8XI0N0YC231k40M0ZD0YF0L1YA390rgR0WE1XY151WA18vkQ3WZICX211
     0mWS31611huUWUbF6zB0Wa30"),
  ("lo otherletter",
    "aF0F0d8043bM0vLQ43WEW019W411Y510O1A220G01TTXQB0OW1LLWBO7A5N15HW9WSWM30I079GE47212L16103330G
     0D112E1A085412L16111111W0310J2G8121L16111430I0F1N0B7212L16111430U112F0H015321331101131323BM
     0WL7121M1F30Q22021U047121M191430W0111F1H8121W920G05282O55H3N181026WRWG11C5WS110141N10191190
     24N3W10X171W4R4YMWBK0G5433031724CC0YKfI132610132W9132W1132610132E1WP132X4W6FYKoU2G1P5XC677H
     DIEHEC12FWKW90X5W31WL742W2105X7AUWIT24BWC4PWNM9WLaLWFH7WNTD1AWCQW4WA2ATYK3151130WYS3YaPWOOM
     9616161616161616mO0WM04XN801XR405WB1Y0HW0WHFlGbvJX2qvP1WaQX5W88dJ4FA1X40WIX7aE0YA03612131MT
     WKEWIX053011BRAMPS7WFWE428A41W9N217KF15303WI1031242010O13A70E525259616ZLW3TgoBCM4WHdtKgO2YC
     X50191C141011111YEW2gLIX12WMW9BYN41ZAYC91WD2U35252522W4B1P1I111E2DW3YThHS3WHWGW0DJ176W6AT2W
     447Z4XFY5W88WKa1f09LA7ZS5201WC11302MAM9UX3I11ALAPX8WO61X20F3121SWBS3SW471RRWMALAIDHYHXAaSW4
     g7WA61XGSA08LWBHWFKRMCWLWQ120DWDW1OQW4T0208W330CWGE3L010W4H1OJ1X1610131E197WFW77212L1611143
     0I0C4a3WLI3K2UWGK110aTWFWA3W5WGK0WSWBD0X9QW66aUWCbP72027111NF010Y172W7G010S0AW870L0BWEJ0IXA
     dF81W5H0WITYJ6111W6L0P5111W0E0fHIF01C1W2Z00XHyMcDb9Xs1Y3FWYHH5ZaQnOdzFnA7UHXGHTIWGWKK5IxCXC
     50aKbgS8WdSWB8eeNeBF0T220E38hNXhEYD5C3879eaC0l5WDW20fBTIWCkJQtD613111E1bAWh631Q111020191310
     1060401010121110201010101011102316131310191G52141GZnIWij1W1ZeU6c42azQEct1Yc3mEWmIaZ95Zg6"),
  ("mn nonspacingmark",
    "tOYIdR4dHWD10111110XAAWHKG0Y86252113W40UQXTAWR890O3181214WC2WT7WBN1W0WO010474036A1T0WR04380
     K1Q021WQ041412230U130B1WQ0441140K1M510WR020138071B1U0WU0C0WJ030WO012521371B1T0WR0206051K1S1
     WQ14380K1T0XA07210XS026C7Y5028B6XB1R01010WOD14115A1W490Y93151121P142G3D02160F0rL2zG2T1U1U1X
     2116802A90WE210YO1W30YP2419062c2120WR0161010276920WHD1FWI3WH0141050W98C1W132112WP0113012WR7
     21ZS21C16406031bCX1s7C403BYb12ZH0Y3W0mR3YE1WVh1049W11XI1dO03040P150ZR1QHD0W77PAWF2WH02321W8
     0X552121C080WG0WK012215110WB180cL02040qXT0sOFGFWVC0c90ZP4WrR21153W9240aA1nF3hF1XI2X8AWI3YU0
     WNEWA021A2WI32170WU2W5417X00C1WL8A320Y2220116020a2037L1WQ130W6634b972210N0XM5104111cL36111R
     1XN72011YD0102510Y822314dB811d811040ZK32140W19W9523809522WFC11i361510XKL261111YT530111610XA
     13010g61B1WL45010anA06EjlS4WS6WXP0X13XJ0piH1ZwOWE2MmH2H726U3ZO2XWQWN4WI80E0M41EWhR61G261114
     Y70a56h30WU3lC3WW06YG6vnpHcM"),
  ("mc spacingmark",
    "XhD0WO0228311WJ1WR26121A0WC0WR2X40WR28011WM1WR0106121A0Y91113212A0WA2WU3WU1WR014211191S0E1W
     R25212A0WB1XD267I1fK1X10aG1406021P1A226L12520A2WrD0U0Z507711g53224115c71WR010901185ZL0WH050
     1411WU0U04120WT0221031WH781aG0L0aYK1WVyH120XQ1WJFZI1WG0WH14122YH121O0WE010YG02150cK1111110v
     pD010Z30WE241YM0O1WS0WH291D0Y023110aF2W01WR113212290A1bN28130YD2601320cK26320YK28110YG01160
     YC140dD290cU511402010ZI28340XM0T1X00i40E0YD07020bR44110g91C0WH18110qf4WNYB1uyN165"),
  ("me enclosingmark", "WbD1axB0WoG312WZmP2"),
  ("nd decimalnumber digit",
    "WH9WoO9ZA9bC9i99YP9YP9YP9YP9YP9YP9YP9YP9YP9Y39YP9X89dU9X89Wy29W79eL9Z49aB969aR9XO9ZA969WaqN
     9qR9W79bC9M9XO9i39rZ49WjJ9XdC9v69Z49WT9ZK9dU9g19YP9h29Y99Y99iJ9Y99tE9cT9X89iJ9ozH9XO9ZA9xwJ
     WIXjC9iJ9l69WZP9ZyF9"),
  ("nl letternumber", "bYB2Xt5W323YvL0P8E2WVnU9tWPWLjQ080ZA4dmJYH"),
  ("no othernumber",
    "aN15022Xj15h45YR2Z96c06H8iU9WYNJWaN9kF0WsB03569bCFWA0sDWSXGLpATWiL0WbP3ZE9U71EW19W8EWVdP5sp
     EWDX33H1g0QW53WgU7P6W88XD4M5a512F2WEX28WL1U2XD4YB7O7WA6fK5gBUa39WB3YJ6ZAJh7JWhG1iR8x3IwEKpY
     L6uNMvq4JCJYFOapT8yUWR1213XEWD1EWV1C"),
  ("pc connectorpunctuation", "Y20dk61J0WxY61O2cM0"),
  ("pd dashpunctuation", "WE0Wi80WK0YtM0WX60XZB5YrK020W0140S0jC0J0YI0WssH1W60A0aE0Za00"),
  ("ps openpunctuation",
    "W90WJ0W00YxN010WyQ0XlC030W70WO0F0pE010U0WZ10101010101010XI0W1010101010i10101010101010101010
     10X2010W20WY70101010P0I0101010iP0101010103010101020WsoU0bT0T01010101010101030H01010aF0WJ0W0
     03020"),
  ("pe closepunctuation",
    "WA0WK0W00YxM010WyQ0XmO0WO0F0pE010U0WZ10101010101010XI0W1010101010i1010101010101010101010X20
     10W20WY70101010WD0101010iP0101010103010101021WsoR0c00T01010101010101030H01010aF0WK0W002020"),
  ("pi initialpunctuation", "aG0dgF02120P0YpP0104020F030"),
  ("pf finalpunctuation", "b10dg0030S0YpP0104020F030"),
  ("po otherpunctuation",
    "W2212201011A131R0X6050E170rK080k15WA0WN02020WD1K111D012XC3Y90WCDcG2WNEW00dD1A0ZG0YR0YS0hI0C
     0gQ0XS0A1aDE10YJ0XC441YI5aG0oN8tT0Z02X91a2212W6513f31bU1Z4615aH6S1Z13WS4X01X27B0vS187882322
     3A1019Yg2311YJ0ZJ1422028111021A41923101C22iP2WQ0b30zx01dL2Y60A0YM5h83XO1W9210WI1WG0Y4CG1Z03
     Z21G1d10qwA620M0K1233213726011ZP212201011A131R0W5021i72qH0WH0iB0sU0bD0W00dO8W70YJ6X46XR3zM4
     WD3b36YG113Z23WH1XH340D012XQ5YE0iE4A110YB0d2MYC2SCXE0Z62d40dG2a00XU7XL214Y09f14WB1pP1XCCaK0
     WaK4YWQ1kmT1Z90X3480wD3fH0piL0cyT4YyC1"),
  ("sm mathsymbol",
    "WC0G2WU010WE040W60W00tM0m02bzJ0D0W82D2ZF0W8460X645140202070W012010W0dJW11XS0UOW95k4090WN7YI
     0fQ42UAFd8Z6MX04W02d9WHK25WtgG0vI012a90G2WU010Z7063Wvc20P0W00P0W00P0W00P0W00P0baB1"),
  ("sc currencysymbol",
    "W50Z13WeH0YU0l21l2170cS0dF0nN0XmA0XfCW1WaXL0rv70YF0ZU0c2131dkT3Wpz90Xn00"),
  ("sk modifiersymbol",
    "Y1010X90604030lP3CD56101GYO0E1WfB0baJ012B2D2D2D1Zi51WVlKM91YA1WVF0E1qgSGxN010a70XYVM4"),
  ("so othersymbol",
    "aB0204010WVG0dI1Z31bK0A0J1cU0lJ0h10Z6510Z80bL0WA0hJ2F01225K01010Z97151153bB1t89sA0s90a2W2gC
     998WjG11311A0116510101040B1E01110WR194231111161U21101UdK74J262XI1TPW86X6PAXJXFMaR181WM8YH1c
     UWDWCX2d7lGWGL16W72W01YBcC5gG1WFP1XQCbRQB80D1C0L161fQ149W1W4SUBT80FW0AW7Ff9bvKX1sWQWNwS3A11
     0nF2rWHFZ30WE2kJ03041D1f38WQG221C30WGWDWrF1o20YeS0XdR74GpWN350qpL0ZzDYMWTcSAW72WS52M17T4WTL
     X330b0XOWcFlFWO3WJ71D11Wu00YVP0Z50s8WC4Y6CE2E1E1W5Na5WPSDWC4871E5ZUd25sE4G3C3YP4Y16B40FB4WO
     896W88T21XGfTCD2C387WE168D48787ZM1WN"),
  ("zs spaceseparator", "W10Z30auJ0XlDAW50WG0Za10"),
  ("zl lineseparator", "dmH0"),
  ("zp paragraphseparator", "dmI0"),
  ("cc control cntrl", "0W0Y2W1"),
  ("cf format", "aI0WhT5M0b60WI0hC1XI0ZW80XYT4Q4WI419WxdS0d12ZjB0F0ei6FWaf63alQ7vtrU0UY2"),
  ("co privateuse", "WxpPbpDzvnMXbaU2XbaU")]

/-- The larger categories: their names, and the first names of the elementary ones they join. -/
def categoryGroups : List (String × String) := [
  ("l letter", "lu ll lt lm lo"),
  ("lc casedletter", "lu ll lt"),
  ("m mark combiningmark", "mn mc me"),
  ("n number", "nd nl no"),
  ("p punctuation punct", "pc pd ps pe pi pf po"),
  ("s symbol", "sm sc sk so"),
  ("z separator", "zs zl zp")]

/-- The characters of an elementary category. -/
def elementaryCategory? (name : String) : Option CodePointSet :=
  (entryOf? categoryTable name).map CodePointSet.ofCode

/-- Characters that belong to a category at all. -/
def assigned : CodePointSet :=
  CodePointSet.unions (categoryTable.map fun entry => CodePointSet.ofCode entry.2)

/-- The characters of a category. -/
def category? (name : String) : Option CodePointSet :=
  if name = "any" then some CodePointSet.all
  else if name = "ascii" then some (.range 0 0x7F)
  else if name = "assigned" then some assigned
  else if name = "cn" || name = "unassigned" then some assigned.complement
  else if name = "c" || name = "other" then
    some (CodePointSet.unions
      (assigned.complement :: ["cc", "cf", "co"].filterMap elementaryCategory?))
  else
    match entryOf? categoryGroups name with
    | some members =>
      some (CodePointSet.unions ((words members).filterMap elementaryCategory?))
    | none => elementaryCategory? name

end FeatureFlags.Unicode
