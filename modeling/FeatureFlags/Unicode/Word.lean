import FeatureFlags.Unicode.CodePointSet

/-!
# Word characters

The characters of words: alphabetic characters, marks, decimal digits, connecting punctuation, and
the two characters that control joining.
-/

namespace FeatureFlags.Unicode

def wordCode : String :=
  "WH97P401PWG0A0405M1U1jN4BE47010HYN1123106012101J1XK1ZE1aH1W6206W98WD101111108Q43TA5XB4Y817291
   I20GWR2Y7EWM40202WEIR4A5N159XB1Z4291I17212L1610332821238041142BA0102215412L161111112014412230
   73107FB218121L16111429121220F329961217212L1611142821227241142910G115321331101131323B443213206
   0E9GC121M1F2812137112202329G317121M19142812137161132912CC121WJ1214537429A5121H3N1810263045101
   76921DWQ5E19W8110141N101M2410161923W10N169B01010491W44J1H1W490WQXB6XF2W610502WB1fM132610132W9
   132W1132610132E1WP132X422W1FGXN253oU2G1P5XC3A7L9LBJCC1211CXL304129W221A6XQ7WB5X7AU1B4BAW824BW
   C4P69W7R4X01S2A69D08UWIXE39H8CYMCWO893WH287WB22G21W75m6252W625271010101U2WL1610321633254C5216
   F1WI1J0S0D0GCWKW1H040291034601010131A235440HW9v7WKWwGcB68CW610502WO70FN96161616161616161W0WG0
   k42PE14244XN21221XR135WB1Y0HW0WHFlGbvJX2sWMX5WE2dK3RKWJ191YLW682Y92X1511014OWM40JWKCX7A96N301
   WH2W4CS3X2EA6U1WN9D296M3XAO22F24A5252596161WB1D6YT11296goBCM4WHdtKgO2YCW76C45B1C141011111YEW2
   gLIX12WMW9B4FGF31O2W141ZAJ97P401PBXQ35252522W4B1P1I111E2DW3YTX7WLZC0Z6S3WHF0W0W0DT5WB5T2W4471
   4WBa2296W44W44W88WKCA1E16111A1E1611X5f09LA7O51WA18X75201WC11302MAM9UX3I11ALAPX8WO61X231157121
   S2240W1S3SW471TPWMALAIDHYHXAWOWJDWJDW889fGWA1131XDW0A08W1W0LWBKRM9X8W0F9WS70DO796WL19438W4209
   X6431C10W4H1W563X0610131E197WR596317212L1611141921222060562634ZFXC5943UX71089aBWM28N5W3X230B9
   W7WP79WNQ2E4966aUWRY8XBL72027111T1128C9X872WE2711RX0808XB30IXAdF81WD18F9OT2L1DXB6111WC3011188
   965111W5111579f0M9G1W934D9XO0XHyMY9YHHb9Xs1Y3FWYHGLZaBnOdzFnA7U196XG196T24BWN93C99K5Ir6X1Z4XC
   4WP7GX2111B1EbgS8WdSWB8ee7316111eBF0T220E38hNXhEYD5C387931ZwOWE2MmF4358726U3ZO2j9XM1X81120212
   31B10161X21327161R131410361fT2O1O1U1O1U1O1U1O1U1O172WIlGWN4WI80E0M41EWZJU65bR61G2611145WUW20Y
   JWD3D2940fBUHWQk5WAsT613111E1bAB6WAXD49WcC31Q111020191310106040101012111020101010101110231613
   1310191G52141Gp8P6P6PXsR9WX7Wij1W1ZeU6c42azQEct1Yc3mEWmIaZ95Zg6swx8cM"

def wordCharacters : CodePointSet := CodePointSet.ofCode wordCode

end FeatureFlags.Unicode
