import LocatorPath.Unicode.CharSet

/-! The yes-or-no properties of the Unicode character database. -/
namespace LocatorPath.Unicode

def properties : List Entry := [
  ⟨["ahex", "asciihexdigit"],
    ["WH975Q5"]⟩,
  ⟨["alpha", "alphabetic"],
    ["X3P6PWG0A0405M1U1jN4BE47010XO0TH1123106012101J1XK1ZE8aA1W6206W9W8D101111108Q43TA5WO16EY817",
     "4742A220GWGDY7OW191405N2IJO7A5N15808WAAB366XD1F124EDI17212L16103337212110804114C1A04215412",
     "L16111111444121407310H5B218121L16111438121130F3L34217212L161114372121914114D0G115321331101",
     "131323B4432123060W9C121M1F37121281122023S317121M1914371212816113D2CC121W9271212105374M5121",
     "H3N181026851017I1DWQ5660WK110141N101I12241060E3W10X171W44I4F1W4X5WN1024GX1A32W610502WB1fM1",
     "32610132W9132W1132610132E1WP132X4W6FGXN253oU2G1P5XC3A7JBKCJCC1211CWK2IE040X5XQ7WB5X7AU1B48",
     "NT24BWC4PWNR4X02JWJ0N1B2WIWK1E17WKWA23AWC1AEWNM2AW42A5WB22WA31511305b5JW2BdT252W6252710101",
     "01U2WL1610321633254C5216YN0D0GCY8040291034601010131A235440HW9v7WKWwGcB6331CW610502WO70GM96",
     "161616161616161W0WG0k42P874244XN621XR135WB1Y0HW0WHFlGbvJX2sWMX5WE2dK3FA1KWF573YJW882Y92X42",
     "11017LJ1W1OWKCX510WD53012AW15W3DS3WJ1BF0GFA41WN9DIM3X61010O22F23B5252596161WB1D6YTLgoBCM4W",
     "HdtKgO2YCW76C45B1C141011111YEW2gLIX12WMW9BYN41ZAW5P6PBXQ35252522W4B1P1I111E2DW3YTX7WLdJS3W",
     "HWGW0DT5WB5T2W44714WBa2IW44W44W88WKCA1E16111A1E16113WKCf09LA7O51WA18X75201WC11302MAM9UX3I1",
     "1ALAPX8WO61X231157121SWBS3SW471RRWMALAIDHYHXAWOWJDWJDW8W3R305Md2WA1131G2WO03SA08LWBHWFKRM9",
     "X7WC4AWP90DONWJH38W3309X11391A010W4H1W22063X0610131E197WPN317212L161114372121306056S910201",
     "W619102013113010WDX31213K2UX32110aTWM26P5W3X01030WSWM20X9Q2DL6aUWPYAX1W072027111T112123Y07",
     "2WE251011RWJ29HX950IXAbDW1W081WD1610WIT2L1DXB6111WC3011121021O5111W5111310fHM9G1W932YI0XHy",
     "MY9YHHb9Xs1Y3FWYHH5PZZQ5nOcYLWFWu9nA7UHXGHTIWGG3W0K5IiTWDbPX1Z4XC4WP7GX2110C1EbgS8WdSWA9ee",
     "7316111eBF0T220E38hNXhEYD5C387940bc2XM1X8112021231B10161X21327161R131410361fT2O1O1U1O1U1O1",
     "U1O1U1O17WxFU65bR61G2611145WUW20YJWDA6G0fBTIWCkJRcBT20kU613111E1bAWSX53030WcQ31Q1110201913",
     "101060401010121110201010101011102316131310191G52141Gp8P6P6PYvDWij1W1ZeU6c42azQEct1Fp1XmHmE",
     "WmIaZ95Zg6"]⟩,
  ⟨["bidic", "bidicontrol"],
    ["WoE0bx71Q4WO3"]⟩,
  ⟨["bidim", "bidimirrored"],
    ["W91I010S010T010WE0F0YvL3WyP1XmB1A1WN1E1aM0b633530313313101048501H539110171W02350912I519421",
     "4N2F83K171WZ0DXC023111253523Di0L251D807530441124401221A521CI13201020135162O1B14311214WB271",
     "W850103452403410d80lJ33111E129WC7iO927Wsy4551a71I010S010T0101111WvhA0WQ0WQ0WQ0WQ0"]⟩,
  ⟨["cased"],
    ["X3P6PWG0A0405M1U1b8134bL1W471U4Y30WB32123106012101J1XK1ZE8aA1W69W9XyIW610502WB13qLXN25Xd8A",
     "5WB22X2b5X2dT252W625271010101U2WL1610321633254C5216YN0D0GCY8040291034601010131540235440HW0",
     "31vBWKWwGcB6331CW61050WWcPWEITZ8Y8331WU211017L412vFWB1D6XHqYE6C4WXAP6PWcBXHY3W44W4YNA1E161",
     "11A1E1611jH0221WA18WdCWJDWJY0LALXyLX1rs1X1wW6XM1X8112021231B10161X21327161R131410361fT2O1O",
     "1U1O1U1O1U1O1U1O17WxF91J65dDWUXdOX5XYDP6P6P"]⟩,
  ⟨["ci", "caseignorable"],
    ["W8060B0W4010X9040104021l7b541409110d36bL050WIWD10111110WD0B5AA10W40AKG0Y871913W2010UQXTAWR",
     "A4020ONWC2WD07158WAWQWO010474036A1D0F0WR04380K1Q021WQ041412230U130B1WQ0441140K1M510WR02013",
     "8071B1U0WU0C0WJ030WO012521371B1T0WR0206051K1S1WQ14380K1T0XA07210XS026B8Y50289016XB1R01010W",
     "OD14115A1W490Y93151121P142G3D02160F0Y10oJ2zG2T1U1U1X2116802A3050WE4WK0X31W30YP2419062c2120",
     "WR0161010276920W808UWI3WH0141050W98C1W132112WP0113012WR721X25XK21C16406031WJX0D0W3Y7jB012B",
     "2D2D2D1C481A02024WI41910D0GCWKW1YXA1YK2Z10F0Y3W0WG0k40W533450Y05Y02ynB0WeA5dM0Y531910S3XI1",
     "EW2XG0N2YA231803040P150ZR1QHD0W77PAWF2WH02321H0L1X452121C080W40B0WK012215110R0E15110Y7492Y",
     "S02040qXT0ZNGnFF30CFW3020aE07060B0W4010WG0WE1X50L2lH0c90ZP4WX651WA18nO21153W9240aA1nF3W70Q",
     "410f51XH3X8AWI3YU0WNEWA021A2WI3212040A0WJ2W5417X00C1WL8A320Y2220116020a2037L1WQ130W6634X85",
     "D01010E1XN72210N0XM5104111cL36111R1XN72011YD0102510Y80102314dB811d811040ZK32140W19W9523809",
     "522WFC11i361510XKL261111YT530111610XA13010g61B1WL45010N0am1G6EgxPB32XnG4WS693lC2W91kH0X1GX",
     "2111mWR31611Yg6113ZwJWE2MmH29F26U3ZO2XWQWN4WI80E0M41EWhR61G2611145WUW20a5DgR0WU3lB4d61sN6Y",
     "G7Xv74vklS0UY2Z4cM"]⟩,
  ⟨["cwcf", "changeswhencasefolded"],
    ["X3PXS0AM17W1010101010101010101010101010101010101010101010101010101020101010101010101110101",
     "010101010101010101010101010101010101010111010101110111223111231111010111020111210113071111",
     "110101010101010102010101010101010102110121010101010101010101010101010101010101010101010101",
     "0101010107111201310101010cT0WB0103080601210111G18M0C231101010101010101010101010112110112WJ",
     "WH0101010101010101010101010101010109010101010101010101010101010101010101010101010101010101",
     "110101010101020101010101010101010101010101010101010101010101010101010101010101010101010101",
     "01010101010101010102W6WH0XyJW61050v45Xd896WB22fA010101010101010101010101010101010101010101",
     "010101010101010101010101010101010101010101010101010101010101010101010101010101010101010101",
     "010101010101010105120101010101010101010101010101010101010101010101010101010101010101010101",
     "0101010101010101010101010109785A78785B010101087GWG22255225B3C45225eI03160WEFJ0vCPWxBWGWH01",
     "220101013102082101010101010101010101010101010101010101010101010101010101010101010101010101",
     "01010101010101010101010801040WWeM010101010101010101010101010101010101010101010J01010101010",
     "1010101010101010ZB010101010101030101010101010101010101010101010101010101010101010101010101",
     "010A010111010101040102010301010101010101010101414101010101010101310113050101010O0xMXHqYE6C",
     "4WXAPWdCW8ZCW4a1A1E1611Wv3WJa2LXzMW0rt2W0WWpKW2"]⟩,
  ⟨["cwcm", "changeswhencasemapped"],
    ["X3P6PWR0AM1U1X11XL1R2D21104XU1H6Q1110113113142011207020113550A1aB0WB32132106012101J1WF3W11",
     "41Z88aA1W6AW7XyJW610502WB22qLXN25Xd8A5WB22aU030G0YKa0201YO252W625271010101U2WL161032163325",
     "4C5216eI03160R0HW031vBWKWwGYJ11117Y87331CW61050WWcPWEIRZAD2WU9E32241O1T2146O1wN0SXHqYE6C4W",
     "XAP6PWcBXHY3W44W4YNA1E16111A1E1611WtQWJDWJY0LALXyLX1rs1X1WWoJX5"]⟩,
  ⟨["cwl", "changeswhenlowercased"],
    ["X3PY8M16W201010101010101010101010101010101010101010101010101010102010101010101010201010101",
     "010101010101010101010101010101010101011101031101112231112311110101110201112101130711111101",
     "010101010101020101010101010101021101210101010101010101010101010101010101010101010101010101",
     "010107111201310101010eA0103080601210111G18W408010101010101010101010105020112WJWH0101010101",
     "010101010101010101010109010101010101010101010101010101010101010101010101010101110101010101",
     "020101010101010101010101010101010101010101010101010101010101010101010101010101010101010101",
     "01010102W6YV6W61050s9XNXdP06WB22fA01010101010101010101010101010101010101010101010101010101",
     "010101010101010101010101010101010101010101010101010101010101010101010101010101010101010101",
     "010901010101010101010101010101010101010101010101010101010101010101010101010101010101010101",
     "010101010109785A78785B010101087O7878784B4B3C4B4eI03160WEFJ0vCPWxBWGWH012201010131020821010",
     "101010101010101010101010101010101010101010101010101010101010101010101010101010101010101010",
     "1010801040WWeM010101010101010101010101010101010101010101010J010101010101010101010101010ZB0",
     "10101010101030101010101010101010101010101010101010101010101010101010101010A010111010101040",
     "102010301010101010101010101414101010101010101310113050101010O0sbQPWdCW8ZCW4a1A1E1611Wv3WJa",
     "2LXzMW0rt2W0WWpKW2"]⟩,
  ⟨["cwt", "changeswhentitlecased"],
    ["Y4PWR0WAN171010101010101010101010101010101010101010101010101010101020101010101010111010101",
     "010101010101010101010101010101010101010201012201020305020322020101020402030102030104011111",
     "010101010101010111010101010101010121010301010101010101010101010101010101010101030101010101",
     "010101080211040101010151110113113142011207020113550A1aB0WC0103032I0RW311321010101010101010",
     "10101014102020WLWG101010101010101010101010101010101090101010101010101010101010101010101010",
     "101010101010101020101010101011101010101010101010101010101010101010101010101010101010101010",
     "101010101010101010101010101010101010WIW7Yv75Xd8810cL030G0YL0101010101010101010101010101010",
     "101010101010101010101010101010101010101010101010101010101010101010101010101010101010101010",
     "101010101010101010101010101650101010101010101010101010101010101010101010101010101010101010",
     "101010101010101010101010101010101885A78785A7878D2787878411603211832187A211g10W2F40w6PWy2WG",
     "10311010106020A010101010101010101010101010101010101010101010101010101010101010101010101010",
     "101010101010101010101010801040CW61050WWcQ010101010101010101010101010101010101010101010J010",
     "101010101010101010101010ZB0101010101010301010101010101010101010101010101010101010101010101",
     "01010101010A010201010101040401120101010101010101010B01010101010101040102030501010Q0wN0SXHq",
     "YE6C4WYBPWdKW8ZCW4a0A1E1611WvSWJZ1LXzMW0rt2W0WWpMW2"]⟩,
  ⟨["cwu", "changeswhenuppercased"],
    ["Y4PWR0WAN171010101010101010101010101010101010101010101010101010101020101010101010111010101",
     "010101010101010101010101010101010101010201012201020305020322020101020402030102030105111111",
     "010101010101011101010101010101011111030101010101010101010101010101010101010103010101010101",
     "0101080211040101010151110113113142011207020113550A1aB0WC0103032I0RW31132101010101010101010",
     "101014102020WLWG10101010101010101010101010101010109010101010101010101010101010101010101010",
     "101010101010102010101010101110101010101010101010101010101010101010101010101010101010101010",
     "1010101010101010101010101010101010WIW7YV5WB22tG5Xd8810cL030G0YL010101010101010101010101010",
     "101010101010101010101010101010101010101010101010101010101010101010101010101010101010101010",
     "101010101010101010101010101010165010101010101010101010101010101010101010101010101010101010",
     "1010101010101010101010101010101010101885A78785A7878D2WL114010321140332187A21140fR0W2F40w6P",
     "Wy2WG10311010106020A0101010101010101010101010101010101010101010101010101010101010101010101",
     "01010101010101010101010101010801040CW61050WWcQ01010101010101010101010101010101010101010101",
     "0J010101010101010101010101010ZB01010101010103010101010101010101010101010101010101010101010",
     "1010101010101010A010201010101040401120101010101010101010B01010101010101040102030501010Q0wN",
     "0SXHqYE6C4WYBPWdKW8ZCW4a0A1E1611WvSWJZ1LXzMW0rt2W0WWpMW2"]⟩,
  ⟨["dash"],
    ["WE0Wi80WK0YtM0WX60XZB5WU0W80F0hI0Yb7020W0140S0jC0J0YI0WssH1W60A0aE0YuM0f80"]⟩,
  ⟨["dep", "deprecated"],
    ["fJ0WgJ0XhD010XaC1XfD5rF1zkgG0"]⟩,
  ⟨["di", "defaultignorablecodepoint"],
    ["aI0qM0s30XzU1Wq71XN4XYS4Q4WIFZl00WskKFcM0a50XH8WocS3alQ7vtrTZd3"]⟩,
  ⟨["dia", "diacritic"],
    ["Y1010X90604021l7a31755H14091d54bN0WOWD10111110Z7741ZA14132X5QXTAWRAW31Z27WA9GRWU0G033S0XC0",
     "G0YH0G0YH0G0WG2WT0G070YQ0YH0G0YH0G0YG1G0Z00YI0C510YE0D4XD1R0101041X4211X00YJ011W9144P610A1",
     "rN2zI1U0ZOA90g62eD0K720WHE2AYB0F0W78WN1WR0B1X41X25XKO406022WJX0WHW45BW6AjB012B2D2D2D1YiQ2f",
     "70lA5YC3Y20WVdR0C110S1XK1EW2Y92YG1C0W60ZR0RHWQ3W50Y20C0W50ZP2X33WK0Y7492Z41qXT0tPFdM010WG0",
     "WE1X50tK0Wc551WA18pH240aA1nD5W70Q4hR2X8AWI3b60WA0XA1YR1X00XE092YB1aN1XI1G0O634XR211D1Y2030",
     "YU1d31Z20YP1YM0dL1dA140a10XL0I0XJ0iI0dA011XJ0iM1N0amOEgyB0XnG4WS6n61mJGXI1mWE31611dd1WE2Mm",
     "H2358726U3YvPWUb86h30WU3tM1sN6YG212"]⟩,
  ⟨["ebase", "emojimodifierbase"],
    ["fZN0c20G3YypH0WT22022YO12ALI3042127010O0bF140L041aJ234XL0G290B0nH02087609922WP0WU11110H21C",
     "cC2WB8"]⟩,
  ⟨["ecomp", "emojicomponent"],
    ["W406059djP0bR0WwxD0XXyJPlB4WkU3vjWPY2"]⟩,
  ⟨["emod", "emojimodifier"],
    ["ZeaR4"]⟩,
  ⟨["emoji"],
    ["W406059YI040dhH0C0bU0M0XS5F1gQ1C0aB0PA42bD0cE1A090WR314902021204020112030318250105BB120111",
     "0I021I5101131502141B15120511011K155132040202510201010603060A1F02040104210B1WH290E0E0h01jT2",
     "J1WK040We20C0oC010Yup80bG0a51C1E029XDP11N0K028L1aJW22YI21122XK221dE1X0B51N7127C0232041D120",
     "819052C28220104060306XNWHX757224930113029cAB40e4WF191aTYJC395WO7E2A68"]⟩,
  ⟨["epres", "emojipresentation"],
    ["efR1bJ33020lP1L1WJBWC0J0D081H1518050L0711040207041S0W40104210WU2O0E0wM1WK040Ywn80bG0b4029X",
     "DP10O0K02412L1aJW1C81X71LCWB44CG303X8101b02X0D31NI0Q1D0XOXMWHX760322243B178cAB40e4WF191aTY",
     "JC395WO7E2A68"]⟩,
  ⟨["ext", "extender"],
    ["aS0m91xA0j70pA0ZD0XR0t80Z30XjF0WP0oM0hQ0X60abA0WC4YA1Y02ynB0Wn70WV10M0ZD0YF0L1rkK0XZI1WlQ0",
     "R040WdE0eE0YN1l22WdM0qk31Wc2110zb01WcN0wF2"]⟩,
  ⟨["extpict", "extendedpictographic"],
    ["aE040dhH0C0bU0M0XS5F1gQ1C0Y20X80PA42bD0cE1A090WR3151B1YKAYO2A1010603060A1F02040104210B4WE2",
     "90E0E0h01jT2J1WK040We20C0oC010Yup4d7D2W00WT5C1E029IWPREA0K028139iU5f78dHWHZ3YNBXNWBC3WP7A5",
     "W97UXJCWF191j6d8WWT"]⟩,
  ⟨["grbase", "graphemebase"],
    ["W1Y1W2C1o4YJ72546101J1c67aA1W62WI22WF01020209Q45H9B01WELF1Y78061204W0201TTXQB0EWB963N40903",
     "07E1O501A5UHWAWQWN10138312792S1117212L1610333011612110D1124N5015412L1611111142O310792210C0",
     "18121L16111433801130F14B708117212L16111430206121F1124HB015321331101131323B5011321230LK6217",
     "121M1F3033J2202149791A121M1914312011O1114912EA121W9201152121142194P211H3N18102691667922CWG",
     "11B78CW6110141N1019119024109923W1N2Q10101D1W4I05024WI7151CW6WD4060212O233F4C11251E1W810502",
     "h4132610132W9132W1132610132E1WP132X45S3P6XN252qH3XQ7HDI319HEC12FWK207711B839696A596XQ742W2",
     "105X7AU43224115703WA24BWC4P6A3WP213WO10901185D9696DXOWGA3371S9B2W0416WO102210DWG815E3WU5WB",
     "2AB0D0731512205b5X2dT252W625271010101U2WL1E1D251I22181A5N7WHG12Q1C3W1X1ZF4qEMALWwD2W01g231",
     "5WD10502WO71FM9616161616161616W2Y0W3P1XQCbRQWQ6F1XN4Y75WB1Y01XN9WG1zjS3WN9g6KWF40AW02XH258",
     "bJ211017LF12131O24496WO8X5ABOC1W68OB0CT6WG1141211C1A461O1W96121B21710292W01WJ1031242010OG2",
     "7B5252596161WS4YN1113396goBCM4WHdtKgO2YCW76C4501N141011111Z0GjA2WM70W1FG9MW31I13441ZA4a12U",
     "352525223616D12B1P1I111E2DW3YT524WD3XP1C30WGWDZ7S3WHGQ4W49T5W6AT1W54DWBa2296W44W44W88WKBB1",
     "E16111A1E16113WKCf09LA7O51WA18X75201WC11302M1X988WHI115W13Q50X2WO4J2WFF3121SA8787X1W1W56B9",
     "WM3S2Q5P73C6XIXAWOWJDWJ7WAC96W68N81bMU1WA3021G2WSW88LB8MH43W7RKM901WMF64T1120CWH412113EO79",
     "9W4509H8W312BWK9017411F1JBH1R314511X1610131E1A6WF12D98117212L161114301013212130C6S910201W6",
     "1011F011301211W8WO81301K1012UWG11601110202389aBWF1163202QW5WJ811023B96CJWB101181696JSQ3011",
     "409MaUWF9020Y7XKC72027111N1411631299X872WA8313R0AW8614790613WED028DXA79aRW2E9681W6E015AS3W",
     "0P07020XD6111W6L09965111W541101079f0I239E1W4813MXO0FWIDyNY9YH14Bb9Xs1Y5DWYHH5PZZQ5nOcYLTC2",
     "39WtTnA7U194XI196T70AWG7EA9161K5IiTWQbCXSY8XC5WOBCX23SbgS8WdSWA9ee7316111eBF0T220E38hNXhEY",
     "D5C38792020ZXUd16j1a1YMWTcSAW72WS52M17T4WTLX330YTJCJCXO9OZBXM1X8112021231B10161X21327161R1",
     "31410361fT2eC2n3WO3WJ71D16WaOU65dDWUZMWDA62941fATIWC4950jUR49bST2A40kF613111E1bA28WHX57049",
     "41uAX5XEWTb831Q1110201913101060401010121110201010101011102316131310191G52141GWL1dMWC4Y6CE2",
     "E1E1W5AaIWPSDWC4871E5ZUWVM4G3C3YP4Y16B40FB4WO896W88T2B41X0fTCD2C395WO7E2A687ZM1Y8WX7Wij1W1",
     "ZeU6c42azQEct1Fp1XmHmEWmIaZ95Zg6"]⟩,
  ⟨["grext", "graphemeextend"],
    ["tOYIdR6dFWD10111110XAAWHKG0Y86252113W40UQXTAWR890O3181214WC2WS8WBN1W0WO010474036A1T0WR0102",
     "38090A1Q021WQ041412230U130B1WQ0441140K1M510WR011138072A1U0WS010C090W9030WO012521371B1T0WR0",
     "2110321371B1S1WQ110238090A1T0XA040221080XJ026C7Y5028B6XB1R01010WOD14115A1W490Y93151121P142",
     "G3D02160F0rL2zG3S2T1U1X2116802A90WE210YO1W30YP2419062c2120WR0161010276920WHUWI3WH942W78C1W",
     "1325WP0113014WP721ZS21C16406031bCX1lS0b9W1Yb12ZH0Y3W0mR5YC1WVh1319W11XI1dO03040P150ZR1QHD0",
     "W77PA10WD2WH0232120W50X552121C080WG0WK012215110WB180cL02040qXT0sOFGFgP1oG0c90ZP4WrR21153W9",
     "240aA1nF3X34f71XH3X8AWI3YU0WNEWA021A2WI32170WU2W5417X00C1WL8108320Y22236020a2037L1WQ11010C",
     "090E634X50251020124210E1XN72210N0XJ02510201111cI0236111R1XN72011YD01027Y80102314dB811cS0A3",
     "40ZK32140W19W9523809522WFC11i361510XKL261111YT530111610XA13010g61B1WL452N0amH06EgxPB32XnG4",
     "WS6WXP0X13XJ0B1pi41ZwOWE2MmF4358726U3ZO2XWQWN4WI80E0M41EWhR61G261114Y70a56h30WU3lC3d61sN6Y",
     "G6vniAY2Z4cM"]⟩,
  ⟨["grlink", "graphemelink"],
    ["XjP0Z30Z30Z30Z30Z30Z30Z30YG1G0Z00YI0Z30bF0aP1WuH1U0a20q20cA0Y81X81ZpR0WWoP0W60ZR0ZI0YF0eU0",
     "cT0uYR0WnN0WA0E0WQ0YS1ZF0YN0aP0Y50Z42YK0Z30d40Z30YP0YN0dL0dB1a60XL0I0XJ0iI0dC1XJ0iM1mmC0"]⟩,
  ⟨["hex", "hexdigit"],
    ["WH975Q5Xav0975Q5"]⟩,
  ⟨["hyphen"],
    ["WE0Z30We40ZxJ0XZB1YrO0sQ0Wsr70aE0XP0"]⟩,
  ⟨["idc", "idcontinue"],
    ["WH97P401PWG0A010205M1U1jN4BE47010HYN11231064101J1XK1ZE142aA1W6206W98WD101111108Q43TA5XB4Y8",
     "17291I20GWR2Y7EWM40202WEIR4A5N158XC1Z4291I17212L1610332821238041142BA0102215412L1611111120",
     "1441223073107FB218121L16111429121220F329961217212L1611142821227241142910G11532133110113132",
     "3B4432132060E9GC121M1F2812137112202329G317121M19142812137161132912CC121WJ1214537429A5121H3",
     "N181026304510176921DWQ5E19W8110141N101M2410161923W10N169B01010491W44J1H1W490WQXB6XF2W61050",
     "2WB1fM132610132W9132W1132610132E1WP132X42298EFGXN253oU2G1P5XC3A7L9LBJCC1211CXL304129W221A6",
     "XQ7WB5X7AU1B4BAW824BWC4P6AW6R4X01S2A69D08D1FWIXE39H8CYMCWO893WH2A5WB22G21W75m6252W62527101",
     "0101U2WL1610321633254C5216F1WI1J0S0D0GCWKC403BH0402910256010101F235440HW9XtDcB68CW610502WO",
     "70FN96161616161616161W0lL2PE14244XN261Y15WB1Y0HW0WHFlGbvJX2sWMX5WE2dK3RKWG491YLW682Y92X421",
     "1017LWM40JWKCX7A96N301WH2W4CS3X2EA6U1WN9D296M3XAO22F24A5252596161WB1D6YT11296goBCM4WHdtKgO",
     "2YCW76C45B1C141011111YEW2gLIX12WMW9B4FGF31O2W141ZAJ97P401PAXR35252522W4B1P1I111E2DW3YTX7WL",
     "ZC0Z6S3WHF0W0W0DT5WB5T2W44714WBa2296W44W44W88WKCA1E16111A1E16113WKCf09LA7O51WA18X75201WC11",
     "302MAM9UX3I11ALAPX8WO61X231157121S2240W1S3SW471TPWMALAIDHYHXAWOWJDWJDW8896W6341Md2WA1131G2",
     "WOW1A08W1W0LWBKRM9X8W0F9WS70DO796WL19438W4209X6431C10W4H1W563X0610131E197WR596317212L16111",
     "41921222060562634B910201W61910201317D1TXC5943UX71089aBWM28N5W3X230B9W7WP796JSQ2E4966aUWRY8",
     "XBL72027111T1128C9X872WE2711RX0808XB30IXAbDW1F9681WD18F9OT2L1DXB6111WC3011188965111W511157",
     "9f0M9G1W934DAXN0XHyMY9YHHb9Xs1Y3FWYHGLAZZQ5nOcYLWQWtTnA7U196XG196T24BWN93C99K5IiTWD39bCX1Z",
     "4XC4WP7GX2111B1EbgS8WdSWA9ee7316111eBF0T220E38hNXhEYD5C387931ZfN9lMWE2MmF4358726U3ZO2j9XM1",
     "X8112021231B10161X21327161R131410361fT2O1O1U1O1U1O1U1O1U1O172WIlGWN4WI80E0M41EWZJU65bR61G2",
     "611145WUW20YJWD3D2940fBUHWQk5WAbSWBkK613111E1bAB6WAXD49WcC31Q11102019131010604010101211102",
     "01010101011102316131310191G52141GYl19WX7Wij1W1ZeU6c42azQEct1Fp1XmHmEWmIaZ95Zg6swx8cM"]⟩,
  ⟨["idcompatmathcontinue"],
    ["aN150diR03A1EgU040M0YseN0P0W00P0W00P0W00P0W00P0"]⟩,
  ⟨["idcompatmathstart"],
    ["eWQ040M0YseN0P0W00P0W00P0W00P0W00P0"]⟩,
  ⟨["ideo", "ideographic"],
    ["htI1P8E2WV4bvJX2qv4sqUgO2YCWVaG0RbgS8WdSWA9eqJhNpl0Wij1W1ZeU6c42azQEct1Fp1XmHmEWmIaZ95Zg6"]⟩,
  ⟨["ids", "idstart"],
    ["X3P6PWG0A0405M1U1jN4BE47010Z541123106012101J1XK1ZE8aA1W6206W9X9Q43WEWBW411Y510F171A220G01T",
     "TXQB0OW191405L409030NO7A5N15HWAWRWM30I079FF47212L16103330G0D112E1A085412L16111111W0310J2G8",
     "121L16111430I0F1N0B7212L16111430U112F0H015321331101131323BM0WL7121M1F30Q22021U047121M19143",
     "0W0111F1H8121W920G05282O55H3N181026WRWG11C6WR110141N101911902410L3W10X171W4R4YMWBK0G543303",
     "1724CC0HW610502WB1fM132610132W9132W1132610132E1WP132X4W6FGXN253oU2G1P5XC3A7HDIEHEC12FWKW40",
     "40X5XQ7W9105X7AUWIT24BWC4PWNM9WLXK0Y0WFH7WNTD1AWCQW4WA2AW42A5WB22WA31511305b5X2dT252W62527",
     "1010101U2WL1610321633254C5216YN0D0GCY80402910256010101F235440HW9XtDcB6331CW610502WO70GM961",
     "6161616161616mN2P874244XN441XR135WB1Y0HW0WHFlGbvJX2sWMX5WE2dK3FA1KWFGU2XHW882Y92X4211017LF",
     "12131MTWKEWIX053011BRAMPS7WFS0G419A41W9N217KM303WI1031242010O22A72C5252596161WB1D6YLTgoBCM",
     "4WHdtKgO2YCW76C450191C141011111YEW2gLIX12WMW9BYN41ZAW5P6PBXQ35252522W4B1P1I111E2DW3YTX7WLd",
     "JS3WHWGW0DT5W6AT2W44714WBa2IW44W44W88WKCA1E16111A1E16113WKCf09LA7O51WA18X75201WC11302MAM9U",
     "X3I11ALAPX8WO61X20F3121SWBS3SW471RRWMALAIDHYHXAWOWJDWJDW4W7R9Md2WA61G2WSSA08LWBHWFKRMCWLWQ",
     "120DWDW1OQW4T0208W330CWGE3L010W4H1OJ1X1610131E197WFW77212L16111430I0C4U910201W610P010WDWLI",
     "3K2UWGK110aTWFWA3W5WGK0WSWBD0X9QW66aUWCYNX1W072027111NF010Y172W7G010S0AW870L0BWEJ0IXAbDW1W",
     "081W5H0WITYJ6111W6L0P5111W0E0fHIF01C1W2Z00XHyMY9YHHb9Xs1Y3FWYHH5PZZQ5nOcYLTWuQnA7UHXGHTIWG",
     "G3W0K5IiTWDbPX1Z4XC50X4CX2110SbgS8WdSWA9ee7316111eBF0T220E38hNXhEYD5C3879bc7XM1X8112021231",
     "B10161X21327161R131410361fT2O1O1U1O1U1O1U1O1U1O17WxFU65dDWUZMWDA6G0fBTIWCkJRcBT20kU613111E",
     "1bAWSX570WcQ31Q1110201913101060401010121110201010101011102316131310191G52141GZnIWij1W1ZeU6",
     "c42azQEct1Fp1XmHmEWmIaZ95Zg6"]⟩,
  ⟨["idsb", "idsbinaryoperator"],
    ["hsR129l10"]⟩,
  ⟨["idst", "idstrinaryoperator"],
    ["hsT1"]⟩,
  ⟨["idsu", "idsunaryoperator"],
    ["htA1"]⟩,
  ⟨["joinc", "joincontrol"],
    ["dlK1"]⟩,
  ⟨["loe", "logicalorderexception"],
    ["YtL4YU4XxA220Wco712011"]⟩,
  ⟨["lower", "lowercase"],
    ["Y4PWG0A040W5N17101010101010101010101010101010101010101010101010101010111010101010101011101",
     "010101010101010101010101010101010101010101020101220102031402032202010102011102030102122602",
     "020101010101010101110101010101010101120103010101010101010101010101010101010101010101010101",
     "01010101016202110401010101X61W471U4Y30WC0103023I0RW31132101010101010101010101014102021WKWG",
     "101010101010101010101010101010101090101010101010101010101010101010101010101010101010101020",
     "101010101011101010101010101010101010101010101010101010101010101010101010101010101010101010",
     "101010101010101010WHW9YV4WB13tG5Xd8810YOb5X30101010101010101010101010101010101010101010101",
     "010101010101010101010101010101010101010101010101010101010101010101010101010101010101010101",
     "010101010101810101010101010101010101010101010101010101010101010101010101010101010101010101",
     "01010101010101010101885A78785A7878D2787878411603211832187A211YS0D0GCYG03130R04040218340W2F",
     "40w6PWy2WG10311010104011173010101010101010101010101010101010101010101010101010101010101010",
     "101010101010101010101010101010101011701040CW61050WWcQ0101010101010101010101010101010101010",
     "10101010J010101010101010101010101012Z90101010101012101010101010101010101010101010101010101",
     "010101010101010101010191010201010101040102012101010101010101010105050101010101010104010203",
     "01010101010M21012vFWB1D6XHqYE6C4WYBPWdKW8ZCW4a0A1E1611jH0221WA18WfEWJZ1LXzMW0rt2W0wX1PQ61H",
     "QPQ310161AQPQPQPQPQPQPQPQPQRSO15QO15QO15QO15QO1510WxF91J65dDWUXeRW2"]⟩,
  ⟨["math"],
    ["WC0G2W00T010WE040W60W00sF220Q122m02by40R2B030D0E3L4B4X3C403144I04029102560312112153D10X6N1",
     "511414W01061EdJ83K1XS0UQ10O0B6jB1C945412134E01025B751WQ010T392fQX1d8lFWHK25WtgG0vH510a70G2",
     "T010T010Z7063YoH1WqvMXM1X8112021231B10161X21327161R131410361fT2eC2WIavL31Q1110201913101060",
     "401010121110201010101011102316131310191G52141GWL1"]⟩,
  ⟨["mcm", "modifiercombiningmark"],
    ["Wq8120Z706031kG11230W00"]⟩,
  ⟨["nchar", "noncharactercodepoint"],
    ["Xao0W0lU1Xbb01Xbb01Xbb01Xbb01Xbb01Xbb01Xbb01Xbb01Xbb01Xbb01Xbb01Xbb01Xbb01Xbb01Xbb01Xbb01"]⟩,
  ⟨["oalpha", "otheralphabetic"],
    ["w00TCnID10111110XAAWHC16G0Y86432140W40UFY9AY81381213YD0WTB366JWN12E1152A1T2WR62121A0A1T2WR",
     "4412140U130B2WR71211L1M242WR6212191A1U0WS43212A0W94WQ6121281B1T2WR6121281B1F0C3WR61212A0A1",
     "T2XD51017I1WU026I0Y602511G0a8I9A1W4YHB1023N342122633DB10A3Wr91U1U1U1X4Ib21W30YPB48c54WQ92J",
     "XC1B2WI4WHEWT2U821WQAWJIi9W2WtOWKXh0W0WWXM7W31gD080N4XQ1WJF10WQ0W74SBWE3WHBW60X5DC081WE2WJ",
     "0122150WD450cK7qY10XbR4WrR21153uD3X30fB1XH0dB2WMDWE1B2WE890WU2W5BI1WQ2WHCE1XU8206020a29N3W",
     "R62121A0A1XM810201311YAC12YDHcK626T1XKE10YDAYADd9CcU511213010ZI62540S9WB413IAWFDi4716XLL1D",
     "YT53011121030X441113g739110WH632mlSGYsK01WN73Y01pi50ei561G261114Y70XeU0XY9P6P6P"]⟩,
  ⟨["odi", "otherdefaultignorablecodepoint"],
    ["wA0Ys31Wq71XeM0ZlA0Wsy20XH8xnm201TY3Z3cNYs3"]⟩,
  ⟨["ogrext", "othergraphemeextend"],
    ["XnE0O0gH0O0Y90O0cF010411191YA0O0YQ0F0Xj10U0WX10501051Y80X91WXP0Ze61WWdB0YF0rw21ZuL0YN0dG0E",
     "090Y3090201250c70C0cO0dE0pD0C0WnK0qk81uyN165vtt7Y2"]⟩,
  ⟨["oidc", "otheridcontinue"],
    ["aS0s60Zc48WqS0Wp41ZkO0WszH0"]⟩,
  ⟨["oids", "otheridstart"],
    ["blF1XdN0L0ZYB1"]⟩,
  ⟨["olower", "otherlowercase"],
    ["aF0F0l5871U4Y30WL0YnG0YcJX0D0W3W5r70D0GCbPFwBPXVG1WWlE1bO0Z5231wT390tlE0221WA18WvpGWU"]⟩,
  ⟨["omath", "othermath"],
    ["Y10xD220Q121ck80R2B0W13O1E1X3C403144I04029103460312112153354XD4231111101421414H2110161061e",
     "B3aD110O0H0jB1C854512134E01025O1WQ010T391g11W09i0LX13W11WumS01040bP010WupTXM1X8112021231B1",
     "0161X21327161R131410361fT2O1O1U1O1U1O1U1O1U1O172WIavL31Q1110201913101060401010121110201010",
     "101011102316131310191G52141G"]⟩,
  ⟨["oupper", "otheruppercase"],
    ["dwJFw1PYyoPP6P6P"]⟩,
  ⟨["patsyn", "patternsyntax"],
    ["W2EA6Q310Q3W3610111011404030N0W00ddON8E2I19eQs6a5p9UWX21YBlGZ3hD24OF0WsoA1dD1"]⟩,
  ⟨["patws", "patternwhitespace"],
    ["94I0Y70dhC1O1"]⟩,
  ⟨["pcm", "prependedconcatenationmark"],
    ["WnH5bT0WI0hC1XI0XddS0F0"]⟩,
  ⟨["qmark", "quotationmark"],
    ["W3040Z70F0dfU7P1YrQ0jN3D2Wsx73b3040XS1"]⟩,
  ⟨["radical"],
    ["hh0P1XQCbR"]⟩,
  ⟨["ri", "regionalindicator"],
    ["ZdoLP"]⟩,
  ⟨["sd", "softdotted"],
    ["YC1bA0e20U0WL0K0fA0Y5010bpN0WK0D030Z80a20iI0bS1XzE0YovF1WJ1WJ1WJ1WJ1WJ1WJ1WJ1WJ1WJ1WJ1WJ1W",
     "J1XdC0eQ1Q0"]⟩,
  ⟨["sterm", "sentenceterminal"],
    ["W20C0G0WhK0ZN2aP0WC2cT0WU01031eE1WuS1uF041tT0bC1a21WE050f41gD3a71A121T2b11X31z20N192YgN2eR",
     "0D0M1iQ0WVa20dM1cA030hA1XO1Y20ZS1ZN2ZK1d10qwC021WS031aE0C0G0X30XxE1Wf64WD3b31YO3Z32Z5160G1",
     "XQ111YF0eJ1YO1h115EYC1d12lL010d31XP1iH1rA1XC1pVL1Z90X31B0mQ1eH0ptA0cyU0"]⟩,
  ⟨["term", "terminalpunctuation"],
    ["W20A010B130vO080lH0WQ0XA0E012aP0WCA10cI1WN517W00dD1WeS1aH045f11uE7tT0Z02X91a2230W8321f41gD",
     "3a71A112T2b14X01z20N192YgN2eR0D040A01131iP1WVa11dL2cA4hA1XO1Y20ZR2ZN2Z30G1d10qwC021WQ213aE",
     "0A010B130X3020WYS0WH0WbB0bD0f01ZS5X65XR3zM4WD3b36YJ3Z32Z5160G1XQ4YF0eJ1YO2C1gH33EYC1d12lL0",
     "10d31XP141iB2WE0pP1XC1WgL4noQ1Z90X32A0mQ1eG1ptA0cyT3"]⟩,
  ⟨["uideo", "unifiedideograph"],
    ["ivDbvJX2qv4szL11011A0101122Xcs8Wij1W1ZeU6c42azQEct1Fp1ZqJaZ95Zg6"]⟩,
  ⟨["upper", "uppercase"],
    ["X3PY8M16W201010101010101010101010101010101010101010101010101010102010101010101010201010101",
     "010101010101010101010101010101010101011101031101112231112311110101110201112101130702020201",
     "010101010101020101010101010101020201210101010101010101010101010101010101010101010101010101",
     "010107111201310101010eA0103080601210111G18W40223010101010101010101010105020112WJWH01010101",
     "010101010101010101010101090101010101010101010101010101010101010101010101010101011101010101",
     "010201010101010101010101010101010101010101010101010101010101010101010101010101010101010101",
     "0101010102W6YV6W61050s9XNXdP06WB22fA010101010101010101010101010101010101010101010101010101",
     "010101010101010101010101010101010101010101010101010101010101010101010101010101010101010101",
     "010109010101010101010101010101010101010101010101010101010101010101010101010101010101010101",
     "01010101010109785A78785B010101087XA3C3C3C4B3dE040322220346010101323A150QFJ0vCPWxBWGWH01220",
     "101013102082101010101010101010101010101010101010101010101010101010101010101010101010101010",
     "10101010101010101010801040WWeM010101010101010101010101010101010101010101010J01010101010101",
     "0101010101010ZB010101010101030101010101010101010101010101010101010101010101010101010101010",
     "A010111010101040102010301010101010101010101414101010101010101310113050101010O0sbQPWdCW8ZCW",
     "4a1A1E1611Wv3WJa2LXzMW0rt2W0wX7PQPQPQ01120212317QPQ1132716R113141036RPQPQPQPQPQPUOW2OW2OW2",
     "OW2OW20Zn3W2XZGP6P6P"]⟩,
  ⟨["vs", "variationselector"],
    ["bhH210WzcQFxof3cM"]⟩,
  ⟨["wspace", "whitespace", "space"],
    ["94I0Y70Q0auJ0XlDAT150WG0Za10"]⟩,
  ⟨["xidc", "xidcontinue"],
    ["WH97P401PWG0A010205M1U1jN4BE47010HYN11321064101J1XK1ZE142aA1W6206W98WD101111108Q43TA5XB4Y8",
     "17291I20GWR2Y7EWM40202WEIR4A5N158XC1Z4291I17212L1610332821238041142BA0102215412L1611111120",
     "1441223073107FB218121L16111429121220F329961217212L1611142821227241142910G11532133110113132",
     "3B4432132060E9GC121M1F2812137112202329G317121M19142812137161132912CC121WJ1214537429A5121H3",
     "N181026304510176921DWQ5E19W8110141N101M2410161923W10N169B01010491W44J1H1W490WQXB6XF2W61050",
     "2WB1fM132610132W9132W1132610132E1WP132X42298EFGXN253oU2G1P5XC3A7L9LBJCC1211CXL304129W221A6",
     "XQ7WB5X7AU1B4BAW824BWC4P6AW6R4X01S2A69D08D1FWIXE39H8CYMCWO893WH2A5WB22G21W75m6252W62527101",
     "0101U2WL1610321633254C5216F1WI1J0S0D0GCWKC403BH0402910256010101F235440HW9XtDcB68CW610502WO",
     "70FN96161616161616161W0lL2PE14244XN21221Y15WB1Y0HW0WHFlGbvJX2sWMX5WE2dK3RKWG491YLW682Y92X4",
     "211017LWM40JWKCX7A96N301WH2W4CS3X2EA6U1WN9D296M3XAO22F24A5252596161WB1D6YT11296goBCM4WHdtK",
     "gO2YCW76C45B1C141011111YEW2ZE6c0IX12WMW996FGF31O2W2010301010101Z1J97P401PAXR35252522W4B1P1",
     "I111E2DW3YTX7WLZC0Z6S3WHF0W0W0DT5WB5T2W44714WBa2296W44W44W88WKCA1E16111A1E16113WKCf09LA7O5",
     "1WA18X75201WC11302MAM9UX3I11ALAPX8WO61X231157121S2240W1S3SW471TPWMALAIDHYHXAWOWJDWJDW8896W",
     "6341Md2WA1131G2WOW1A08W1W0LWBKRM9X8W0F9WS70DO796WL19438W4209X6431C10W4H1W563X0610131E197WR",
     "596317212L1611141921222060562634B910201W61910201317D1TXC5943UX71089aBWM28N5W3X230B9W7WP796",
     "JSQ2E4966aUWRY8XBL72027111T1128C9X872WE2711RX0808XB30IXAbDW1F9681WD18F9OT2L1DXB6111WC30111",
     "88965111W5111579f0M9G1W934DAXN0XHyMY9YHHb9Xs1Y3FWYHGLAZZQ5nOcYLWQWtTnA7U196XG196T24BWN93C9",
     "9K5IiTWD39bCX1Z4XC4WP7GX2111B1EbgS8WdSWA9ee7316111eBF0T220E38hNXhEYD5C387931ZfN9lMWE2MmF43",
     "58726U3ZO2j9XM1X8112021231B10161X21327161R131410361fT2O1O1U1O1U1O1U1O1U1O172WIlGWN4WI80E0M",
     "41EWZJU65bR61G2611145WUW20YJWD3D2940fBUHWQk5WAbSWBkK613111E1bAB6WAXD49WcC31Q11102019131010",
     "60401010121110201010101011102316131310191G52141GYl19WX7Wij1W1ZeU6c42azQEct1Fp1XmHmEWmIaZ95",
     "Zg6swx8cM"]⟩,
  ⟨["xids", "xidstart"],
    ["X3P6PWG0A0405M1U1jN4BE47010Z541132106012101J1XK1ZE8aA1W6206W9X9Q43WEWBW411Y510F171A220G01T",
     "TXQB0OW191405L409030NO7A5N15HWAWRWM30I079FF47212L16103330G0D112E1A085412L16111111W0310J2G8",
     "121L16111430I0F1N0B7212L16111430U112F0H015321331101131323BM0WL7121M1F30Q22021U047121M19143",
     "0W0111F1H8121W920G05282O55H3N181026WRWG10D6WR110141N101910A02410L3W10X171W4R4YMWBK0G543303",
     "1724CC0HW610502WB1fM132610132W9132W1132610132E1WP132X4W6FGXN253oU2G1P5XC3A7HDIEHEC12FWKW40",
     "40X5XQ7W9105X7AUWIT24BWC4PWNM9WLXK0Y0WFH7WNTD1AWCQW4WA2AW42A5WB22WA31511305b5X2dT252W62527",
     "1010101U2WL1610321633254C5216YN0D0GCY80402910256010101F235440HW9XtDcB6331CW610502WO70GM961",
     "6161616161616mN2P874244XN621XR135WB1Y0HW0WHFlGbvJX2sWMX5WE2dK3FA1KWFGU2XHW882Y92X4211017LF",
     "12131MTWKEWIX053011BRAMPS7WFS0G419A41W9N217KM303WI1031242010O22A72C5252596161WB1D6YLTgoBCM",
     "4WHdtKgO2YCW76C450191C141011111YEW2ZE6c0IX12WMW99YQ010301010101Z1W5P6PBWO2U35252522W4B1P1I",
     "111E2DW3YTX7WLdJS3WHWGW0DT5W6AT2W44714WBa2IW44W44W88WKCA1E16111A1E16113WKCf09LA7O51WA18X75",
     "201WC11302MAM9UX3I11ALAPX8WO61X20F3121SWBS3SW471RRWMALAIDHYHXAWOWJDWJDW4W7R9Md2WA61G2WSSA0",
     "8LWBHWFKRMCWLWQ120DWDW1OQW4T0208W330CWGE3L010W4H1OJ1X1610131E197WFW77212L16111430I0C4U9102",
     "01W610P010WDWLI3K2UWGK110aTWFWA3W5WGK0WSWBD0X9QW66aUWCYNX1W072027111NF010Y172W7G010S0AW870",
     "L0BWEJ0IXAbDW1W081W5H0WITYJ6111W6L0P5111W0E0fHIF01C1W2Z00XHyMY9YHHb9Xs1Y3FWYHH5PZZQ5nOcYLT",
     "WuQnA7UHXGHTIWGG3W0K5IiTWDbPX1Z4XC50X4CX2110SbgS8WdSWA9ee7316111eBF0T220E38hNXhEYD5C3879bc",
     "7XM1X8112021231B10161X21327161R131410361fT2O1O1U1O1U1O1U1O1U1O17WxFU65dDWUZMWDA6G0fBTIWCkJ",
     "RcBT20kU613111E1bAWSX570WcQ31Q1110201913101060401010121110201010101011102316131310191G5214",
     "1GZnIWij1W1ZeU6c42azQEct1Fp1XmHmEWmIaZ95Zg6"]⟩]

end LocatorPath.Unicode
