import LocatorPath.Unicode.CharSet

/-! The scripts of the Unicode character database, once by each character's own script and once
by the scripts that use it. -/
namespace LocatorPath.Unicode

def scripts : List Entry := [
  ⟨["adlm", "adlam"],
    ["Zbd6XD4941"]⟩,
  ⟨["aghb", "caucasianalbanian"],
    ["XcmSWKB0"]⟩,
  ⟨["ahom"],
    ["Xhf0Q2E4M"]⟩,
  ⟨["arab", "arabic"],
    ["WnH4151D121W019BP1YE1W2XIWGcNU115XC1SXXm1YLGgL2XH2WM70W1FYJ41ZAZY2UX52WO3WxhH31Q1110201913",
     "101060401010121110201010101011102316131310191G52141GWL1"]⟩,
  ⟨["armi", "imperialaramaic"],
    ["Xdh6L18"]⟩,
  ⟨["armn", "armenian"],
    ["WgRW62WI22XYhE4"]⟩,
  ⟨["avst", "avestan"],
    ["XeYSWM36"]⟩,
  ⟨["bali", "balinese"],
    ["caUXE1WI"]⟩,
  ⟨["bamu", "bamum"],
    ["Wih0XPWpi2nA"]⟩,
  ⟨["bass", "bassavah"],
    ["YYp4T25"]⟩,
  ⟨["batk", "batak"],
    ["ch5WK83"]⟩,
  ⟨["beng", "bengali"],
    ["XlE317212L1610332821238041142O"]⟩,
  ⟨["bhks", "bhaiksuki"],
    ["Xip981WD1DAS"]⟩,
  ⟨["bopo", "bopomofo"],
    ["t21hdLWBYJW0"]⟩,
  ⟨["brah", "brahmi"],
    ["Xfj6XF4W490"]⟩,
  ⟨["brai", "braille"],
    ["fpAd7"]⟩,
  ⟨["bugi", "buginese"],
    ["bxMR21"]⟩,
  ⟨["buhd", "buhid"],
    ["bb0J"]⟩,
  ⟨["cakm", "chakma"],
    ["XfrEWL1H"]⟩,
  ⟨["cans", "canadianaboriginal"],
    ["af5pJn2X7XbpAF"]⟩,
  ⟨["cari", "carian"],
    ["XbwNWH"]⟩,
  ⟨["cham"],
    ["WjdRWN9D2923"]⟩,
  ⟨["cher", "cherokee"],
    ["ac2XN25WefKXH"]⟩,
  ⟨["chrs", "chorasmian"],
    ["XfgJR"]⟩,
  ⟨["copt", "coptic", "qaac"],
    ["WW2DftUYM56"]⟩,
  ⟨["cpmn", "cyprominoan"],
    ["XnvQY5"]⟩,
  ⟨["cprt", "cypriot"],
    ["Xdf45201WC113020"]⟩,
  ⟨["cyrl", "cyrillic"],
    ["WX1Z82aDbbGAa50XE0ZgEW0WWW1Y2sf11WybAWUW20"]⟩,
  ⟨["deva", "devanagari"],
    ["XhAXI4E2PWgj4W0zgD9"]⟩,
  ⟨["diak", "divesakuru"],
    ["XhvG62027111T112B99"]⟩,
  ⟨["dogr", "dogra"],
    ["Xhn8WS"]⟩,
  ⟨["dsrt", "deseret"],
    ["Xcd3XH"]⟩,
  ⟨["dupl", "duployan"],
    ["YudIYD5C387923"]⟩,
  ⟨["egyp", "egyptianhieroglyphs"],
    ["XnzEWZOAZZQ"]⟩,
  ⟨["elba", "elbasan"],
    ["XclBW8"]⟩,
  ⟨["elym", "elymaic"],
    ["Xfi5M"]⟩,
  ⟨["ethi", "ethiopic"],
    ["ZtKXA132610132W9132W1132610132E1WP132X42W03PbwRM9616161616161616WXfB525259616Xrg8613111E"]⟩,
  ⟨["gara", "garay"],
    ["XerFW63S81"]⟩,
  ⟨["geor", "georgian"],
    ["Zi9W610502WB13YXFWB22Zf6W61050"]⟩,
  ⟨["glag", "glagolitic"],
    ["grBY2YsWD61G261114"]⟩,
  ⟨["gong", "gunjalagondi"],
    ["XjVK5111W5111579"]⟩,
  ⟨["gonm", "masaramgondi"],
    ["XixH6111WC30111889"]⟩,
  ⟨["goth", "gothic"],
    ["XcWCQ"]⟩,
  ⟨["gran", "grantha"],
    ["XgcU317212L1611142821222060562634"]⟩,
  ⟨["grek", "greek"],
    ["xC3122310401012101J1X0EFbqL4WJ444XM0fAL252W625271010101U2WL1E1D251I2218eG0WauJ0rvUXGH0WtkN",
     "X7"]⟩,
  ⟨["gujr", "gujarati"],
    ["XtN218121L16111429121220F32B76"]⟩,
  ⟨["gukh", "gurungkhema"],
    ["YWW3WQ"]⟩,
  ⟨["guru", "gurmukhi"],
    ["XpJ215412L16111111201441223073107G"]⟩,
  ⟨["hang", "hangul"],
    ["ZlCd7dW71d9Y0YKUX3UWVpMSpNgoBCM4WHfmBU35252522"]⟩,
  ⟨["hani", "han"],
    ["hh0P1XQCbRWG010P8E3WV3bvJX2qv4sqUgO2YCWVaE1C1WcgJWij1W1ZeU6c42azQEct1Fp1XmHmEWmIaZ95Zg6"]⟩,
  ⟨["hano", "hanunoo"],
    ["bZUK"]⟩,
  ⟨["hatr", "hatran"],
    ["XdmBI1154"]⟩,
  ⟨["hebr", "hebrew"],
    ["WjUWN8Q45XYeGP1410111119"]⟩,
  ⟨["hira", "hiragana"],
    ["hvFXN62YeYUe7I0T2mc30"]⟩,
  ⟨["hluw", "anatolianhieroglyphs"],
    ["XteJnO"]⟩,
  ⟨["hmng", "pahawhhmong"],
    ["YYqLX7A9161K5I"]⟩,
  ⟨["hmnp", "nyiakengpuachuehmong"],
    ["ZZZ4WD3D2941"]⟩,
  ⟨["hung", "oldhungarian"],
    ["Xel9WJDWJ75"]⟩,
  ⟨["ital", "olditalic"],
    ["XbzQW492"]⟩,
  ⟨["java", "javanese"],
    ["WjZNXF2941"]⟩,
  ⟨["kali", "kayahli"],
    ["WjVJWE10"]⟩,
  ⟨["kana", "katakana"],
    ["hyIXR22cNFbMWF1XPWsg391WDWkz23161110e82WJ0E3"]⟩,
  ⟨["kawi"],
    ["Xjj2G1W93S"]⟩,
  ⟨["khar", "kharoshthi"],
    ["XdvK31157121S224978"]⟩,
  ⟨["khmr", "khmer"],
    ["bd2Y02969kLW0"]⟩,
  ⟨["khoj", "khojki"],
    ["XfzMH1WF"]⟩,
  ⟨["kits", "khitansmallscript"],
    ["YaV20cbQk4WA0"]⟩,
  ⟨["knda", "kannada"],
    ["Yf7C121M19142812137161132912"]⟩,
  ⟨["krai", "kiratrai"],
    ["YZe8WQ"]⟩,
  ⟨["kthi", "kaithi"],
    ["XfnAX4A0"]⟩,
  ⟨["lana", "taitham"],
    ["byNX01S2A696D"]⟩,
  ⟨["laoo", "lao"],
    ["YvO110141N101M2410161923"]⟩,
  ⟨["latn", "latin"],
    ["X3P6PWG0F05M1U1jEW84byIW66WH535C1X7X3d7gS0D0GCZH160R0HW9XwGW0WWpMY83X4211017LDvAWB1813qb76",
     "WXRP6PXa851WA18WvfMU65"]⟩,
  ⟨["lepc", "lepcha"],
    ["cj7WO3E32"]⟩,
  ⟨["limb", "limbu"],
    ["bpEU1B4B403B"]⟩,
  ⟨["lina", "lineara"],
    ["XctJf09LA7"]⟩,
  ⟨["linb", "linearb"],
    ["Xbb2B1P1I111E2DW3YT"]⟩,
  ⟨["lisu"],
    ["Whx1WGWWq50"]⟩,
  ⟨["lyci", "lycian"],
    ["XbvMS"]⟩,
  ⟨["lydi", "lydian"],
    ["XdoDP50"]⟩,
  ⟨["mahj", "mahajani"],
    ["Xfu1W7"]⟩,
  ⟨["maka", "makasar"],
    ["Xji1O"]⟩,
  ⟨["mand", "mandaic"],
    ["Xb4R20"]⟩,
  ⟨["mani", "manichaean"],
    ["XeWQW74B"]⟩,
  ⟨["marc", "marchen"],
    ["XisSW02L1D"]⟩,
  ⟨["medf", "medefaidrin"],
    ["YZmGXS"]⟩,
  ⟨["mend", "mendekikakui"],
    ["ZazTbA2F"]⟩,
  ⟨["merc", "meroiticcursive"],
    ["XdsHN4J2WE"]⟩,
  ⟨["mero", "meroitichieroglyphs"],
    ["XdrGW0"]⟩,
  ⟨["mlym", "malayalam"],
    ["YjBC121WJ12154F2P"]⟩,
  ⟨["modi"],
    ["XhWNX6B9"]⟩,
  ⟨["mong", "mongolian"],
    ["bh61201J6XQ7WBXan4C"]⟩,
  ⟨["mroo", "mro"],
    ["YYkFU1941"]⟩,
  ⟨["mtei", "meeteimayek"],
    ["Wjl3MbFWE29"]⟩,
  ⟨["mult", "multani"],
    ["XgYQ610131E1A"]⟩,
  ⟨["mymr", "myanmar"],
    ["Zd4a4WeuHUY4W0xvEJ"]⟩,
  ⟨["nagm", "nagmundari"],
    ["ZaZJWA"]⟩,
  ⟨["nand", "nandinagari"],
    ["XiVL72WE2A"]⟩,
  ⟨["narb", "oldnortharabian"],
    ["XdzOW0"]⟩,
  ⟨["nbat", "nabataean"],
    ["Xdj8U88"]⟩,
  ⟨["newa"],
    ["Xgl7XT14"]⟩,
  ⟨["nkoo", "nko"],
    ["XX0WR22"]⟩,
  ⟨["nshu", "nushu"],
    ["YZzU0mjBhN"]⟩,
  ⟨["ogam", "ogham"],
    ["azPS"]⟩,
  ⟨["olck", "olchiki"],
    ["clPWG"]⟩,
  ⟨["onao", "olonal"],
    ["ZahRWB40"]⟩,
  ⟨["orkh", "oldturkic"],
    ["Xeh5XA"]⟩,
  ⟨["orya", "oriya"],
    ["XxR217212L1611142821227241142H"]⟩,
  ⟨["osge", "osage"],
    ["XciOW44W4"]⟩,
  ⟨["osma", "osmanya"],
    ["Xch7T29"]⟩,
  ⟨["ougr", "olduyghur"],
    ["XfeHP"]⟩,
  ⟨["palm", "palmyrene"],
    ["Xdi7W0"]⟩,
  ⟨["pauc", "paucinhau"],
    ["XieUWP"]⟩,
  ⟨["perm", "oldpermic"],
    ["XcXDWB"]⟩,
  ⟨["phag", "phagspa"],
    ["WiuDWO"]⟩,
  ⟨["phli", "inscriptionalpahlavi"],
    ["Xec0I57"]⟩,
  ⟨["phlp", "psalterpahlavi"],
    ["Xed1H73C6"]⟩,
  ⟨["phnx", "phoenician"],
    ["XdnCR30"]⟩,
  ⟨["plrd", "miao"],
    ["YZsMXC4WP7G"]⟩,
  ⟨["prti", "inscriptionalparthian"],
    ["XeaUL27"]⟩,
  ⟨["rjng", "rejang"],
    ["WjX5W4B0"]⟩,
  ⟨["rohg", "hanifirohingya"],
    ["XepDW889"]⟩,
  ⟨["runr", "runic"],
    ["bVQXC3A"]⟩,
  ⟨["samr", "samaritan"],
    ["XZ2WE2E"]⟩,
  ⟨["sarb", "oldsoutharabian"],
    ["XdyNW0"]⟩,
  ⟨["saur", "saurashtra"],
    ["WiwFX78B"]⟩,
  ⟨["sgnw", "signwriting"],
    ["ZWrPq0F41E"]⟩,
  ⟨["shaw", "shavian"],
    ["XcfLWG"]⟩,
  ⟨["shrd", "sharada"],
    ["XfvIY2"]⟩,
  ⟨["sidd", "siddham"],
    ["XgxJWM2W6"]⟩,
  ⟨["sind", "khudawadi"],
    ["XgaCWR59"]⟩,
  ⟨["sinh", "sinhala"],
    ["YnG21H3N181026304510176922XccEJ"]⟩,
  ⟨["sogd", "sogdian"],
    ["XfcFWA"]⟩,
  ⟨["sogo", "oldsogdian"],
    ["XfaTW8"]⟩,
  ⟨["sora", "sorasompeng"],
    ["XfpSO79"]⟩,
  ⟨["soyo", "soyombo"],
    ["XibBXK"]⟩,
  ⟨["sund", "sundanese"],
    ["cf3X1d87"]⟩,
  ⟨["sunu", "sunuwar"],
    ["Xin7W2E9"]⟩,
  ⟨["sylo", "sylotinagri"],
    ["WisBWD"]⟩,
  ⟨["syrc", "syriac"],
    ["WvPD1WS22dOA"]⟩,
  ⟨["tagb", "tagbanwa"],
    ["bc1C1211"]⟩,
  ⟨["takr", "takri"],
    ["XhaRWQ69"]⟩,
  ⟨["tale", "taile"],
    ["bs1T24"]⟩,
  ⟨["talu", "newtailue"],
    ["btIWC4P6A31"]⟩,
  ⟨["taml", "tamil"],
    ["YX1115321331101131323B4432132060EKXgjAWID0"]⟩,
  ⟨["tang", "tangut"],
    ["YZzT0W0bgS8tNlG8"]⟩,
  ⟨["tavt", "taiviet"],
    ["Wji0X4O4"]⟩,
  ⟨["telu", "telugu"],
    ["Yb3C121M1F281213711220232978"]⟩,
  ⟨["tfng", "tifinagh"],
    ["hW5WO71E0"]⟩,
  ⟨["tglg", "tagalog"],
    ["bYTL90"]⟩,
  ⟨["thaa", "thaana"],
    ["WzTWI"]⟩,
  ⟨["thai"],
    ["YrKWQ5R"]⟩,
  ⟨["tibt", "tibetan"],
    ["YzRX91W44W71W41E1641"]⟩,
  ⟨["tirh", "tirhuta"],
    ["XgpBX989"]⟩,
  ⟨["tnsa", "tangsa"],
    ["YYm1XG19"]⟩,
  ⟨["todr", "todhri"],
    ["XcrHWK"]⟩,
  ⟨["toto"],
    ["ZZm1U"]⟩,
  ⟨["tutg", "tulutigalari"],
    ["Xgh3910201W619102013191181"]⟩,
  ⟨["ugar", "ugaritic"],
    ["XcYUT10"]⟩,
  ⟨["vaii", "vai"],
    ["WhyIeK"]⟩,
  ⟨["vith", "vithkuqi"],
    ["XcoUA1E16111A1E1611"]⟩,
  ⟨["wara", "warangciti"],
    ["XhsDXKC0"]⟩,
  ⟨["wcho", "wancho"],
    ["ZZnIWQ50"]⟩,
  ⟨["xpeo", "oldpersian"],
    ["Xca0W44D"]⟩,
  ⟨["xsux", "cuneiform"],
    ["XjrAyMY9YH14Bb9"]⟩,
  ⟨["yezi", "yezidi"],
    ["XfWPWA1221"]⟩,
  ⟨["yiii", "yi"],
    ["Wgo9WbH3WN"]⟩,
  ⟨["zanb", "zanabazarsquare"],
    ["XiYOX9"]⟩,
  ⟨["zinh", "inherited", "qaai"],
    ["tOYIdT1jIAQ0sN3ZoAUlH21C16406031bCX1lS1b8W1ZWM3YE1Wsr5FGDWVE0c90Zg10WoVIWE2MmH2H726U3vtyHc",
     "M"]⟩,
  ⟨["zyyy", "common"],
    ["0X2Q5QWF1E14N0W00jFW7542JYN0906010pH060E030W10a10lK0Z51We10i23eB0Wn02X91bH110WdK0D07315122",
     "0tTB2XO1A3A1EHW1X1W612251Q1GWA24qEMALySd8p72W01YBlGY0hUK101OF743XT130XS1ZNFW1W690WHX1W0XIW",
     "G0XQaCbvKX1sqUW2Y92aA9cR0a50hN0E1qtL1bM9MW31I13ZN01W0Q5QAA0WE1X2616A4dA24WD38XICWKWDcBQWnj",
     "13ZXQd16j1a1YMWTcSAW72WU3G817T4WTbRJCJCXO9OZBXM1X8112021231B10161X21327161R131410361fT2eC2",
     "WIaiPX5XEWTrOWC4Y6CE2E1E1W5AaIWPP11DWC4871E5ZUWVM4G3C3YP4Y16B40FB4WO896W88T2B41X0fTCD2C395",
     "WO7E2A687ZM1Y8vii10UY2"]⟩]

def scriptExtensions : List Entry := [
  ⟨["adlm", "adlam"],
    ["WoH0W10by50Yr40Yty6XD4941"]⟩,
  ⟨["aghb", "caucasianalbanian"],
    ["tS0WD0WD0Xbq2WKB0"]⟩,
  ⟨["ahom"],
    ["Xhf0Q2E4M"]⟩,
  ⟨["arab", "arabic"],
    ["WnH41bS1W2XIWGcNU115XC1SbbF0Yr40WsoBYLGjA2WM70W1FYJ41ZAWW3RYW2UX52WO3WxhH31Q11102019131010",
     "60401010121110201010101011102316131310191G52141GWL1"]⟩,
  ⟨["armi", "imperialaramaic"],
    ["Xdh6L18"]⟩,
  ⟨["armn", "armenian"],
    ["u10mPW62WI22XYhE4"]⟩,
  ⟨["avst", "avestan"],
    ["aS0hYF1WwuDWM36"]⟩,
  ⟨["bali", "balinese"],
    ["caUXE1WI"]⟩,
  ⟨["bamu", "bamum"],
    ["Wih0XPWpi2nA"]⟩,
  ⟨["bass", "bassavah"],
    ["YYp4T25"]⟩,
  ⟨["batk", "batak"],
    ["ch5WK83"]⟩,
  ⟨["beng", "bengali"],
    ["rI0WsA1H1Q317212L1610332821238041142OaVC01021108080204022WbdS0"]⟩,
  ⟨["bhks", "bhaiksuki"],
    ["Xip981WD1DAS"]⟩,
  ⟨["bopo", "bopomofo"],
    ["rT012D0G1hV92491CA32060b909WBYJW0WsjT1e34"]⟩,
  ⟨["brah", "brahmi"],
    ["Xfj6XF4W490"]⟩,
  ⟨["brai", "braille"],
    ["fpAd7"]⟩,
  ⟨["bugi", "buginese"],
    ["bxMR21WcdH0"]⟩,
  ⟨["buhd", "buhid"],
    ["baK19J"]⟩,
  ⟨["cakm", "chakma"],
    ["XoN9Wq49XbgTWL1H"]⟩,
  ⟨["cans", "canadianaboriginal"],
    ["af5pJn2X7XbpAF"]⟩,
  ⟨["cari", "carian"],
    ["aS0di7020Yq50Wun8WH"]⟩,
  ⟨["cham"],
    ["WjdRWN9D2923"]⟩,
  ⟨["cher", "cherokee"],
    ["tO21061M1B1ZgLXN25WefKXH"]⟩,
  ⟨["chrs", "chorasmian"],
    ["XfgJR"]⟩,
  ⟨["copt", "coptic", "qaac"],
    ["aS0nQ03110YF1YFDftUYM56e00Wuq5R"]⟩,
  ⟨["cpmn", "cyprominoan"],
    ["XbjA1hhEY5"]⟩,
  ⟨["cprt", "cypriot"],
    ["XbjA24WD38WtN5201WC113020"]⟩,
  ⟨["cyrl", "cyrillic"],
    ["rI0X521010102050cLeObbGAa50XE0Z30ZcAW0X50WVyQY2sf11WybAWUW20"]⟩,
  ⟨["deva", "devanagari"],
    ["rI0WpMXK2WBaZFW711WWM0WaVR9aBW0zgD9"]⟩,
  ⟨["diak", "divesakuru"],
    ["XhvG62027111T112B99"]⟩,
  ⟨["dogr", "dogra"],
    ["XkHBWgdU9yt1WS"]⟩,
  ⟨["dsrt", "deseret"],
    ["Xcd3XH"]⟩,
  ⟨["dupl", "duployan"],
    ["aS0o2110O1gjQ0YhyNYD5C387927"]⟩,
  ⟨["egyp", "egyptianhieroglyphs"],
    ["XnzEWZOAZZQ"]⟩,
  ⟨["elba", "elbasan"],
    ["aS0o00XbrCW8"]⟩,
  ⟨["elym", "elymaic"],
    ["Xfi5M"]⟩,
  ⟨["ethi", "ethiopic"],
    ["u70YzCXA132610132W9132W1132610132E1WP132X42W03PbwRM9616161616161616WXfB525259616Xrg8613111",
     "E"]⟩,
  ⟨["gara", "garay"],
    ["WnT0E030XdXSW63S81"]⟩,
  ⟨["geor", "georgian"],
    ["aS0WdO0XyHW610502WGYXFWB22yN0YgDW61050dB0"]⟩,
  ⟨["glag", "glagolitic"],
    ["aS0nT010hA020d90YWF0ZXS0YY5Y2kI0WWVB0XqlD61G261114"]⟩,
  ⟨["gong", "gunjalagondi"],
    ["aS0XeJ1Xgl15111W5111579"]⟩,
  ⟨["gonm", "masaramgondi"],
    ["XkH1XghT6111WC30111889"]⟩,
  ⟨["goth", "gothic"],
    ["aS0nU120W90Xbb0Q"]⟩,
  ⟨["gran", "grantha"],
    ["XjT1H1pKDZk7011U231WWM0XXjT317212L1611141921222060562634Ye1110"]⟩,
  ⟨["grek", "greek"],
    ["aS0nQ1201010A0WF020WB72310401012101J1X0EFbqL4WJ444XM2f8L252W625271010101U2WL1E1D251I2218Y1",
     "0bE0WauJ0rvUXGH0WtkNX7"]⟩,
  ⟨["gujr", "gujarati"],
    ["XjT1H1e4218121L16111429121220F32B76Wfw29"]⟩,
  ⟨["gukh", "gurungkhema"],
    ["XkI0XylFWQ"]⟩,
  ⟨["guru", "gurmukhi"],
    ["XjT1H1a0215412L16111111201441223073107GWgVF9"]⟩,
  ⟨["hang", "hangul"],
    ["ZlCd7czO2491CE260b90WMY0YKUX3UWVpMSpNgoBCM4WHfb51e34WRU35252522"]⟩,
  ⟨["hani", "han"],
    ["aS0hb2P1XQCbRQF121C1C1C2068b10ZOFW1W690WHW8WPWHFBWK0XQOA4Y3U1bvJX2qv4WvP7quSgO2YCx71e34yyS",
     "1C1vk3HdbS1YoUWij1W1ZeU6c42azQEct1Fp1XmHmEWmIaZ95Zg6"]⟩,
  ⟨["hano", "hanunoo"],
    ["bZUM"]⟩,
  ⟨["hatr", "hatran"],
    ["XdmBI1154"]⟩,
  ⟨["hebr", "hebrew"],
    ["u01pSWN8Q45XYeGP1410111119"]⟩,
  ⟨["hira", "hiragana"],
    ["htD2491CG510413XN27XS1Wsq71e34A0WE1WkzHe7I0T2mc30"]⟩,
  ⟨["hluw", "anatolianhieroglyphs"],
    ["XteJnO"]⟩,
  ⟨["hmng", "pahawhhmong"],
    ["YYqLX7A9161K5I"]⟩,
  ⟨["hmnp", "nyiakengpuachuehmong"],
    ["ZZZ4WD3D2941"]⟩,
  ⟨["hung", "oldhungarian"],
    ["do5020Yq50F0Wxb9WJDWJ75"]⟩,
  ⟨["ital", "olditalic"],
    ["XbzQW492"]⟩,
  ⟨["java", "javanese"],
    ["WjZNXF1A41"]⟩,
  ⟨["kali", "kayahli"],
    ["WjVJWG"]⟩,
  ⟨["kana", "katakana"],
    ["tT0T0gyF2491CG51041XT33Y2cNFbMWF1XPWsWO1e3X0Wkz03161110e82WJ0E3"]⟩,
  ⟨["kawi"],
    ["Xjj2G1W93S"]⟩,
  ⟨["khar", "kharoshthi"],
    ["XdvK31157121S224978"]⟩,
  ⟨["khmr", "khmer"],
    ["bd2Y02969kLW0"]⟩,
  ⟨["khoj", "khojki"],
    ["Xx09WfwI9xaFH1WF"]⟩,
  ⟨["kits", "khitansmallscript"],
    ["YaV20cbQk4WA0"]⟩,
  ⟨["knda", "kannada"],
    ["XjT1H1uJC121M19142812137161132912ZbU01160N010WbXO5"]⟩,
  ⟨["krai", "kiratrai"],
    ["YZe8WQ"]⟩,
  ⟨["kthi", "kaithi"],
    ["XkJ9etG0WWkD9wt3X4A0"]⟩,
  ⟨["lana", "taitham"],
    ["byNX01S2A696D"]⟩,
  ⟨["laoo", "lao"],
    ["YvO110141N101M2410161923"]⟩,
  ⟨["latn", "latin"],
    ["X3P6PWG0C0205M1U1jE30A01210901064RE1110F27111W70504CdT1WdH1XW70Yb7W66WH535C1X7WQ07d7eO0X30",
     "D0GCXL0WQ160R0HW9XwGW0i40WWbE7QY83X4211017LDeN0lHWB1813qb76WXRP6PXa851WA18WvfMU65"]⟩,
  ⟨["lepc", "lepcha"],
    ["cj7WO3E32"]⟩,
  ⟨["limb", "limbu"],
    ["XkI0ZZQU1B4B403B"]⟩,
  ⟨["lina", "lineara"],
    ["XbjHWDWdJf09LA7"]⟩,
  ⟨["linb", "linearb"],
    ["Xbb2B1P1I111E2DW3YT524WD38"]⟩,
  ⟨["lisu"],
    ["rI0G0hWH1WVY8WGWWq50"]⟩,
  ⟨["lyci", "lycian"],
    ["do50WycGS"]⟩,
  ⟨["lydi", "lydian"],
    ["aS0hYG0WweTP50"]⟩,
  ⟨["mahj", "mahajani"],
    ["aS0XeJBWgdU9wzPW7"]⟩,
  ⟨["maka", "makasar"],
    ["Xji1O"]⟩,
  ⟨["mand", "mandaic"],
    ["WpJ0lFR20"]⟩,
  ⟨["mani", "manichaean"],
    ["WpJ0Xch6W74B"]⟩,
  ⟨["marc", "marchen"],
    ["XisSW02L1D"]⟩,
  ⟨["medf", "medefaidrin"],
    ["YZmGXS"]⟩,
  ⟨["mend", "mendekikakui"],
    ["ZazTbA2F"]⟩,
  ⟨["merc", "meroiticcursive"],
    ["XdsHN4J2WE"]⟩,
  ⟨["mero", "meroitichieroglyphs"],
    ["do80XVY7W0"]⟩,
  ⟨["mlym", "malayalam"],
    ["XjT1H1yNC121WJ12154F2PZXO0N0WbXQ2"]⟩,
  ⟨["modi"],
    ["WitS9ycGX6B9"]⟩,
  ⟨["mong", "mongolian"],
    ["bh6P6XQ7WBXV20ZbJ153Wzg2C"]⟩,
  ⟨["mroo", "mro"],
    ["YYkFU1941"]⟩,
  ⟨["mtei", "meeteimayek"],
    ["Wjl3MbFWE29"]⟩,
  ⟨["mult", "multani"],
    ["XsR9XdfK610131E1A"]⟩,
  ⟨["mymr", "myanmar"],
    ["Zd4a4WeoP0aMUY4W0xvEJ"]⟩,
  ⟨["nagm", "nagmundari"],
    ["ZaZJWA"]⟩,
  ⟨["nand", "nandinagari"],
    ["XjT0I1xS9ZcS08070WbXI5zbI72WE2A"]⟩,
  ⟨["narb", "oldnortharabian"],
    ["XdzOW0"]⟩,
  ⟨["nbat", "nabataean"],
    ["Xdj8U88"]⟩,
  ⟨["newa"],
    ["XjT1ab301190601010XYuAXT14"]⟩,
  ⟨["nkoo", "nko"],
    ["WnT0E030iDWR22XYf71"]⟩,
  ⟨["nshu", "nushu"],
    ["YZzU0mjBhN"]⟩,
  ⟨["ogam", "ogham"],
    ["azPS"]⟩,
  ⟨["olck", "olchiki"],
    ["clPWG"]⟩,
  ⟨["onao", "olonal"],
    ["XkH1ZXx8WB40"]⟩,
  ⟨["orkh", "oldturkic"],
    ["do50Yq70WxXMXA"]⟩,
  ⟨["orya", "oriya"],
    ["XjT1H1i8217212L1611142821227241142HZoH0N0"]⟩,
  ⟨["osge", "osage"],
    ["tP02060XE0Xbm4W44W4"]⟩,
  ⟨["osma", "osmanya"],
    ["Xch7T29"]⟩,
  ⟨["ougr", "olduyghur"],
    ["WpJ0XciP0Wb2P"]⟩,
  ⟨["palm", "palmyrene"],
    ["Xdi7W0"]⟩,
  ⟨["pauc", "paucinhau"],
    ["XieUWP"]⟩,
  ⟨["perm", "oldpermic"],
    ["aS0nQ052A0gQ0Xaw4WB"]⟩,
  ⟨["phag", "phagspa"],
    ["bh8110XaC0ZbK0WWVTWO"]⟩,
  ⟨["phli", "inscriptionalpahlavi"],
    ["Xec0I57"]⟩,
  ⟨["phlp", "psalterpahlavi"],
    ["WpJ0XcnCH73C6"]⟩,
  ⟨["phnx", "phoenician"],
    ["XdnCR30"]⟩,
  ⟨["plrd", "miao"],
    ["YZsMXC4WP7G"]⟩,
  ⟨["prti", "inscriptionalparthian"],
    ["XeaUL27"]⟩,
  ⟨["rjng", "rejang"],
    ["WjX5W4B0"]⟩,
  ⟨["rohg", "hanifirohingya"],
    ["WnT0E030W10ZN0Xcv0W889"]⟩,
  ⟨["runr", "runic"],
    ["bVQXQ"]⟩,
  ⟨["samr", "samaritan"],
    ["XZ2WE2EfYB0"]⟩,
  ⟨["sarb", "oldsoutharabian"],
    ["XdyNW0"]⟩,
  ⟨["saur", "saurashtra"],
    ["WiwFX78B"]⟩,
  ⟨["sgnw", "signwriting"],
    ["ZWrPq0F41E"]⟩,
  ⟨["shaw", "shavian"],
    ["aS0XcZNWG"]⟩,
  ⟨["shrd", "sharada"],
    ["XjT0ab601021209020WbY0520xWCY2"]⟩,
  ⟨["sidd", "siddham"],
    ["XgxJWM2W6"]⟩,
  ⟨["sind", "khudawadi"],
    ["XkH1Wge99xg5WR59"]⟩,
  ⟨["sinh", "sinhala"],
    ["XkH1WXS21H3N181026304510176922YzO0XYcKJ"]⟩,
  ⟨["sogd", "sogdian"],
    ["WpJ0XdmQWA"]⟩,
  ⟨["sogo", "oldsogdian"],
    ["XfaTW8"]⟩,
  ⟨["sora", "sorasompeng"],
    ["XfpSO79"]⟩,
  ⟨["soyo", "soyombo"],
    ["XibBXK"]⟩,
  ⟨["sund", "sundanese"],
    ["cf3X1d87"]⟩,
  ⟨["sunu", "sunuwar"],
    ["tO1109020S030XhrQW2E9"]⟩,
  ⟨["sylo", "sylotinagri"],
    ["XkH1Z49WgY9WD"]⟩,
  ⟨["syrc", "syriac"],
    ["tR12110O27111sH0E120W10AAQ0ZJD1WS22dOAarU010"]⟩,
  ⟨["tagb", "tagbanwa"],
    ["baK1WAC1211"]⟩,
  ⟨["takr", "takri"],
    ["XkH1Wge99ygKWQ69"]⟩,
  ⟨["tale", "taile"],
    ["tO15130Yl09XhGT24"]⟩,
  ⟨["talu", "newtailue"],
    ["btIWC4P6A31"]⟩,
  ⟨["taml", "tamil"],
    ["XjT1H1mD115321331101131323B4432132060EKZkA0WbeS0xcO010WO1YfAWID0"]⟩,
  ⟨["tang", "tangut"],
    ["hsRFkU0XrqH0W0bgS8tNlG8"]⟩,
  ⟨["tavt", "taiviet"],
    ["Wji0X4O4"]⟩,
  ⟨["telu", "telugu"],
    ["XjT1H1qFC121M1F281213711220232978ZfR11010N0"]⟩,
  ⟨["tfng", "tifinagh"],
    ["tQ01013P0gb7WO71E0"]⟩,
  ⟨["tglg", "tagalog"],
    ["bYTL90L1"]⟩,
  ⟨["thaa", "thaana"],
    ["WnT0E120X29dUWIXYnH0A0"]⟩,
  ⟨["thai"],
    ["rI0Q0WC0WE0Xw8WQ5R"]⟩,
  ⟨["tibt", "tibetan"],
    ["YzRX91W44W71W41E1641dmM3"]⟩,
  ⟨["tirh", "tirhuta"],
    ["XjT1H1aaF0C0F0WbXQ9xv4X989"]⟩,
  ⟨["tnsa", "tangsa"],
    ["YYm1XG19"]⟩,
  ⟨["todr", "todhri"],
    ["tP020209010XC0XbuMWK"]⟩,
  ⟨["toto"],
    ["rI0ZYuDU"]⟩,
  ⟨["tutg", "tulutigalari"],
    ["YiG9Zd6010WbXO5b10xgT910201W619102013191181"]⟩,
  ⟨["ugar", "ugaritic"],
    ["XcYUT10"]⟩,
  ⟨["vaii", "vai"],
    ["WhyIeK"]⟩,
  ⟨["vith", "vithkuqi"],
    ["XcoUA1E16111A1E1611"]⟩,
  ⟨["wara", "warangciti"],
    ["XhsDXKC0"]⟩,
  ⟨["wcho", "wancho"],
    ["ZZnIWQ50"]⟩,
  ⟨["xpeo", "oldpersian"],
    ["Xca0W44D"]⟩,
  ⟨["xsux", "cuneiform"],
    ["XjrAyMY9YH14Bb9"]⟩,
  ⟨["yezi", "yezidi"],
    ["WnT0E030X29XdfQWA1221"]⟩,
  ⟨["yiii", "yi"],
    ["htD15927c60ymOWbH3WNtZ64"]⟩,
  ⟨["zanb", "zanabazarsquare"],
    ["XiYOX9"]⟩,
  ⟨["zinh", "inherited", "qaai"],
    ["u80201E36202F111H1413Wn11ZoAUtBWM1014lS1b8W0WwwHFGDWVE0WsnUWE2MmH2H726U3vtyHcM"]⟩,
  ⟨["zyyy", "common"],
    ["0X2Q5QWF1B1114N0W00jF2191030181015542JZ206010pH0bT0lK0Wi80i23ZeCB2W11U1911161A3A1EHW1X1W61",
     "2251Q1GWA24qEMALySd8p72W01YBlGM1N2913101PiF030D0D0L0m2NW00WIEC3a695Y2W00bvKX1sr7PY92WVF0E1",
     "rVE9MK2B1I13ZN01W0Q5Q5Z3616A4hUCWKWDWru7d16j1a1YMWTcSAW72WU3G817T4WTbRJCJCXOR6ZBXM1X811202",
     "1231B10161X21327161R131410361fT2eC2WIaiPX5XEWTrOWC4Y6CE2E1E1W5AaIWPP11DWC48N5ZUWVM4G3C3YP4",
     "Y16B40FB4WO896W88T2B41X0fTCD2C395WO7E2A687ZM1Y8vii10UY2"]⟩]

end LocatorPath.Unicode
