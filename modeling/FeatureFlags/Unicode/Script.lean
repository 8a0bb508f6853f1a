import FeatureFlags.Unicode.CodePointSet

/-!
# Scripts

Each character belongs to one script.  Characters of the scripts "common" and "inherited" may be
used with several others; the table gives, behind the characters of a script, those that are only
used with it.
-/

namespace FeatureFlags.Unicode

/-- The scripts: their names in small letters, their characters, and the characters of "common" and
"inherited" that are used with them. -/
def scriptTable : List (String × String × String) := [
  ("adlm adlam", "Zbd6XD4941", "WoH0W10"),
  ("ahom", "Xhf0Q2E4M", ""),
  ("hluw anatolianhieroglyphs", "XteJnO", ""),
  ("arab arabic",
    "WnH4151D121W019BP1YE1W2XIWGcNU116XB1SXXm1YLGgL2XH2WM70W1FYJ41ZAZY2UZ22WxhH31Q11102019131010
     60401010121110201010101011102316131310191G52141GWL1",
    "WnT0E030W10AAQ0XYs31WkER"),
  ("armn armenian", "WgRW62WI22XYhE4", ""),
  ("avst avestan", "XeYSWM36", ""),
  ("bali balinese", "caUXE3WF", ""),
  ("bamu bamum", "Wih0XPWpi2nA", ""),
  ("bass bassavah", "YYp4T25", ""),
  ("batk batak", "ch5WK83", ""),
  ("beng bengali", "XlE317212L1610332821238041142O", "XjT1H1aaA01021108080204022WbdS0"),
  ("bhks bhaiksuki", "Xip981WD1DAS", ""),
  ("bopo bopomofo", "t21hdLWBYJW0", "htD2491CA32060b90Wsq81e34"),
  ("brah brahmi", "Xfj6XF4W490", ""),
  ("brai braille", "fpAd7", ""),
  ("bugi buginese", "bxMR21", "Wjc90"),
  ("buhd buhid", "bb0J", "baK1"),
  ("cans canadianaboriginal", "af5pJn2X7XbpAF", ""),
  ("cari carian", "XbwNWH", ""),
  ("aghb caucasianalbanian", "XcmSWKB0", ""),
  ("cakm chakma", "XfrEWL1H", "XoN9Wq49"),
  ("cham", "WjdRWN9D2923", ""),
  ("cher cherokee", "ac2XN25WefKXH", ""),
  ("chrs chorasmian", "XfgJR", ""),
  ("zyyy common",
    "0X2Q5QWF1E14N0W00jFW7542JYN0906010pH060E030W10a10lK0Z51We10i23eB0Wn02X91bH110WdK0D073151220
     tTB2XO1A3A1EHW1X1W612251Q1GWA24qBPALySd8p72W01YBlGY0hUB44101OF743XT130XS1ZNFW1W4WTX1W0XIWG0
     XQaCbvKX1sqUW2Y92aA9cR0a50hN0E1qtL1bM9MW31I13ZN01W0Q5QAA0WE1X2616A4dA24WD38XICWKWDcBQWnj13Z
     z6YMWTcSAW72WU3G817T4WTbRJCJCXO9OZBXM1X8112021231B10161X21327161R131410361fT2eC2WIaiPX5XEWT
     rOWC4Y6CE2E1E1W5AaIWPP11DWC4871E5ZUWVM4G3C3YP4Y16B40FB4WO896W88T21XGfTCD2C387WE168D48787ZM1
     WNW69vii10UY2",
    ""),
  ("copt coptic qaac", "WW2DftUYM56", "XbyPR"),
  ("xsux cuneiform", "XjrAyMY9YH14Bb9", ""),
  ("cprt cypriot", "Xdf45201WC113020", "XbjA24WD38"),
  ("cpmn cyprominoan", "XnvQY5", "XbjA1"),
  ("cyrl cyrillic", "WX1Z82aDbbG8a70XE0ZgEW0WWW1Y2sf11WybAWUW20", "WbA1bt30ZfG0"),
  ("dsrt deseret", "Xcd3XH", ""),
  ("deva devanagari", "XhAXI4E2PWgj4W0zgD9", "XjT1H1aaAW711WWM0WaVR9"),
  ("diak divesakuru", "XhvG62027111T112B99", ""),
  ("dogr dogra", "Xhn8WS", "XkHBWgdU9"),
  ("dupl duployan", "YudIYD5C387923", "YuiN3"),
  ("egyp egyptianhieroglyphs", "XnzEWZO", ""),
  ("elba elbasan", "XclBW8", ""),
  ("elym elymaic", "Xfi5M", ""),
  ("ethi ethiopic",
    "ZtKXA132610132W9132W1132610132E1WP132X42W03PbwRM9616161616161616WXfB525259616Xrg8613111E",
    ""),
  ("geor georgian", "Zi9W610502WB13YXFWB22Zf6W61050", "Zl70"),
  ("glag glagolitic", "grBY2YsWD61G261114", "Wb9020gYJ0WWVB0"),
  ("goth gothic", "XcWCQ", ""),
  ("gran grantha", "XgcU317212L1611142821222060562634", "XjT1H1pKDZk7011U231WWM0XXlQ0YfR110"),
  ("grek greek",
    "xC3122310401012101J1X0EFbqL4WJ444XM0fAL252W625271010101U2WL1E1D251I2218eG0WauJ0rvUXGH0WtkNX
     7",
    "vS020cWK1"),
  ("gujr gujarati", "XtN218121L16111429121220F32B76", "XjT1H1Wge99"),
  ("gong gunjalagondi", "XjVK5111W5111579", "XkH1"),
  ("guru gurmukhi", "XpJ215412L16111111201441223073107G", "XjT1H1Wge99"),
  ("hani han",
    "hh0P1XQCbRWG010P8E3WV3bvJX2qv4sqUgO2YCWVaE1C1WcgJWij1W1ZeU6c42azQEct1Yc3mEWmIaZ95Zg6",
    "htD220191CA3206043b10ZOFW1W4WTW8WPWHFBWK0XQOA4Y3UzoM7scD1e34WujGHdbS1"),
  ("hang hangul", "ZlCd7dW71d9Y0YKUX3UWVpMSpNgoBCM4WHfmBU35252522", "htD2491CG060b90Wsq81e34"),
  ("rohg hanifirohingya", "XepDW889", "WnT0E030W10ZN0"),
  ("hano hanunoo", "bZUK", "baK1"),
  ("hatr hatran", "XdmBI1154", ""),
  ("hebr hebrew", "WjUWN8Q45XYeGP1410111119", ""),
  ("hira hiragana", "hvFXN62YeYUe7I0T2mc30", "htD2491CG51041XT330XS1Wsq71e34A0WE1"),
  ("armi imperialaramaic", "Xdh6L18", ""),
  ("zinh inherited qaai",
    "tOYIdT1jIAQ0sN3ZoAUlH21C16406031bCX1lS1b8W1ZWM3YE1Wsr5FGDWVE0c90Zg10WoVIWE2MmH2H726U3vtyHcM",
    ""),
  ("phli inscriptionalpahlavi", "Xec0I57", ""),
  ("prti inscriptionalparthian", "XeaUL27", ""),
  ("java javanese", "WjZNXF2941", "Wjc90"),
  ("kthi kaithi", "XfnAX4A0", "XkJ9WgdU9"),
  ("knda kannada", "Yf7C121M19142812137161132912", "XjT1H1aaA01070N010WbXO5"),
  ("kana katakana",
    "hyIXR22cNFbMWF1XPWsg391WDWkz23161110e82WJ0E3",
    "htD2491CG51041XT330XS1Wsq71e34A0WE1"),
  ("kawi", "Xjj2G1W93R", ""),
  ("kali kayahli", "WjVJWE10", "WjX30"),
  ("khar kharoshthi", "XdvK31157121S224978", ""),
  ("kits khitansmallscript", "YaV20cbQk4", ""),
  ("khmr khmer", "bd2Y02969kLW0", ""),
  ("khoj khojki", "XfzMH1WF", "Xx09WfwI9"),
  ("sind khudawadi", "XgaCWR59", "XkH1Wge99"),
  ("laoo lao", "YvO110141N101M2410161923", ""),
  ("latn latin",
    "X3P6PWG0F05M1U1jEW84byIW66WH535C1X7X3d7gS0D0GCZH160R0HW9XwGW0WWpMY83X1511014ODvAWB1813qb76W
     XRP6PXa851WA18WvfMU65",
    "wUCdT1WdH1XW70ZWG0b60WZr27mN0"),
  ("lepc lepcha", "cj7WO3E32", ""),
  ("limb limbu", "bpEU1B4B403B", "XkI0"),
  ("lina lineara", "XctJf09LA7", "XbjHWD"),
  ("linb linearb", "Xbb2B1P1I111E2DW3YT", "XbjA24WD38"),
  ("lisu", "Whx1WGWWq50", ""),
  ("lyci lycian", "XbvMS", ""),
  ("lydi lydian", "XdoDP50", ""),
  ("mahj mahajani", "Xfu1W7", "XkHBWgdU9"),
  ("maka makasar", "Xji1O", ""),
  ("mlym malayalam", "YjBC121WJ12154F2P", "XjT1H1aaK0WbYJ2"),
  ("mand mandaic", "Xb4R20", "WpJ0"),
  ("mani manichaean", "XeWQW74B", "WpJ0"),
  ("marc marchen", "XisSW02L1D", ""),
  ("gonm masaramgondi", "XixH6111WC30111889", "XkH1"),
  ("medf medefaidrin", "YZmGXS", ""),
  ("mtei meeteimayek", "Wjl3MbFWE29", ""),
  ("mend mendekikakui", "ZazTbA2F", ""),
  ("merc meroiticcursive", "XdsHN4J2WE", ""),
  ("mero meroitichieroglyphs", "XdrGW0", ""),
  ("plrd miao", "YZsMXC4WP7G", ""),
  ("modi", "XhWNX6B9", "WitS9"),
  ("mong mongolian", "bh61201J6XQ7WBXan4C", "bh8110XaC0"),
  ("mroo mro", "YYkFU1941", ""),
  ("mult multani", "XgYQ610131E1A", "XsR9"),
  ("mymr myanmar", "Zd4a4WeuHUY4W0", "WjX30"),
  ("nbat nabataean", "Xdj8U88", ""),
  ("nagm nagmundari", "ZaZJWA", ""),
  ("nand nandinagari", "XiVL72WE2A", "XkH1xS9ZcS08070WbXI5"),
  ("talu newtailue", "btIWC4P6A31", ""),
  ("newa", "Xgl7XT14", ""),
  ("nkoo nko", "XX0WR22", "WnT0E030XYuM1"),
  ("nshu nushu", "YZzU0mjBhN", ""),
  ("hmnp nyiakengpuachuehmong", "ZZZ4WD3D2941", ""),
  ("ogam ogham", "azPS", ""),
  ("olck olchiki", "clPWG", ""),
  ("hung oldhungarian", "Xel9WJDWJ75", ""),
  ("ital olditalic", "XbzQW492", ""),
  ("narb oldnortharabian", "XdzOW0", ""),
  ("perm oldpermic", "XcXDWB", "Wb80"),
  ("xpeo oldpersian", "Xca0W44D", ""),
  ("sogo oldsogdian", "XfaTW8", ""),
  ("sarb oldsoutharabian", "XdyNW0", ""),
  ("orkh oldturkic", "Xeh5XA", ""),
  ("ougr olduyghur", "XfeHP", "WpJ0XciP0"),
  ("orya oriya", "XxR217212L1611142821227241142H", "XjT1H1aaK0N0"),
  ("osge osage", "XciOW44W4", ""),
  ("osma osmanya", "Xch7T29", ""),
  ("hmng pahawhhmong", "YYqLX7A9161K5I", ""),
  ("palm palmyrene", "Xdi7W0", ""),
  ("pauc paucinhau", "XieUWP", ""),
  ("phag phagspa", "WiuDWO", "bh8110"),
  ("phnx phoenician", "XdnCR30", ""),
  ("phlp psalterpahlavi", "Xed1H73C6", "WpJ0"),
  ("rjng rejang", "WjX5W4B0", ""),
  ("runr runic", "bVQXC3A", ""),
  ("samr samaritan", "XZ2WE2E", ""),
  ("saur saurashtra", "WiwFX78B", ""),
  ("shrd sharada", "XfvIY2", "XjT0ab60102120"),
  ("shaw shavian", "XcfLWG", ""),
  ("sidd siddham", "XgxJWM2W6", ""),
  ("sgnw signwriting", "ZWrPq0F41E", ""),
  ("sinh sinhala", "YnG21H3N181026304510176922XccEJ", "XkH1"),
  ("sogd sogdian", "XfcFWA", "WpJ0"),
  ("sora sorasompeng", "XfpSO79", ""),
  ("soyo soyombo", "XibBXK", ""),
  ("sund sundanese", "cf3X1d87", ""),
  ("sylo sylotinagri", "WisBWD", "XkH1Z49"),
  ("syrc syriac", "WvPD1WS22dOA", "WnT0E120W10AAQ0bd9010"),
  ("tglg tagalog", "bYTL90", "baK1"),
  ("tagb tagbanwa", "bc1C1211", "baK1"),
  ("tale taile", "bs1T24", "Zf69"),
  ("lana taitham", "byNX01S2A696D", ""),
  ("tavt taiviet", "Wji0X4O4", ""),
  ("takr takri", "XhaRWQ69", "XkH1Wge99"),
  ("taml tamil", "YX1115321331101131323B4432132060EKXgjAWID0", "XjT1H1aaK0WbeS0xcO010WO1"),
  ("tnsa tangsa", "YYm1XG19", ""),
  ("tang tangut", "YZzT0W0bgS8tNlG8", ""),
  ("telu telugu", "Yb3C121M1F281213711220232978", "XjT1H1aaK0N0"),
  ("thaa thaana", "WzTWI", "WnT0E120X29XYy40A0"),
  ("thai", "YrKWQ5R", ""),
  ("tibt tibetan", "YzRX91W44W71W41E1641", ""),
  ("tfng tifinagh", "hW5WO71E0", ""),
  ("tirh tirhuta", "XgpBX989", "XjT1H1abD0WbXQ9"),
  ("toto", "ZZm1U", ""),
  ("ugar ugaritic", "XcYUT10", ""),
  ("vaii vai", "WhyIeK", ""),
  ("vith vithkuqi", "XcoUA1E16111A1E1611", ""),
  ("wcho wancho", "ZZnIWQ50", ""),
  ("wara warangciti", "XhsDXKC0", ""),
  ("yezi yezidi", "XfWPWA1221", "WnT0E030X29"),
  ("yiii yi", "Wgo9WbH3WN", "htD15927c60WszD4"),
  ("zanb zanabazarsquare", "XiYOX9", "")]

/-- The characters of a script. -/
def script? (name : String) : Option CodePointSet :=
  (entryOf? scriptTable name).map fun entry => CodePointSet.ofCode entry.1

/-- The characters that are used with a script. For "common" and "inherited" these are the ones
that are used with no other script in particular. -/
def scriptExtension? (name : String) : Option CodePointSet :=
  (entryOf? scriptTable name).map fun (own, more) =>
    if name = "common" || name = "zyyy" || name = "inherited" || name = "zinh" || name = "qaai" then
      .difference (CodePointSet.ofCode own)
        (CodePointSet.unions (scriptTable.map fun entry => CodePointSet.ofCode entry.2.2))
    else .union (CodePointSet.ofCode own) (CodePointSet.ofCode more)

end FeatureFlags.Unicode
