import LocatorPath.Unicode.CharSet

/-! The parts that characters play at the breaks of texts, from the Unicode character database. A
character that has no entry plays none. -/
namespace LocatorPath.Unicode

def graphemeBreaks : List Entry := [
  ⟨["cn", "control"],
    ["09111HY2W1D0WiQ0Zt50XYT021O6WIFWxdS0cNBix3FWaf63alQ7vtrTW0Y3Z3cNYs3"]⟩,
  ⟨["cr"],
    ["D0"]⟩,
  ⟨["ex", "extend"],
    ["tOYIdR6dFWD10111110XAAWHKG0Y86252113W40UQXTAWR890O3181214WC2WS8WBN1W0WO010474036A1T0WR0102",
     "38090A1Q021WQ041412230U130B1WQ0441140K1M510WR011138072A1U0WS010C090W9030WO012521371B1T0WR0",
     "2110321371B1S1WQ110238090A1T0XA040221080XJ026C7Y5028B6XB1R01010WOD14115A1W490Y93151121P142",
     "G3D02160F0rL2zG3S2T1U1X2116802A90WE210YO1W30YP2419062c2120WR0161010276920WHUWI3WH942W78C1W",
     "1325WP0113014WP721ZS21C16406031bCX1lS0b9W1Yb12ZH0Y3W0mR5YC1WVh1319W11XI1dO03040P150ZR1QHD0",
     "W77PA10WD2WH0232120W50X552121C080WG0WK012215110WB180cL02040qXT0sOFGFgP1oG0c90ZP4WrR21153W9",
     "240aA1nF3X34f71XH3X8AWI3YU0WNEWA021A2WI32170WU2W5417X00C1WL8108320Y22236020a2037L1WQ11010C",
     "090E634X50251020124210E1XN72210N0XJ02510201111cI0236111R1XN72011YD01027Y80102314dB811cS0A3",
     "40ZK32140W19W9523809522WFC11i361510XKL261111YT530111610XA13010g61B1WL452N0amH06EgxPB32XnG4",
     "WS6WXP0X13XJ0B1pi41ZwOWE2MmF4358726U3ZO2XWQWN4WI80E0M41EWhR61G261114Y70a56h30WU3lC3d61sN6Y",
     "G6Xv84vkmSY2Z4cM"]⟩,
  ⟨["l"],
    ["ZlCY2Wek7S"]⟩,
  ⟨["lf"],
    ["A0"]⟩,
  ⟨["lv"],
    ["WjuC0R0R0R0R0R0R0R0R0R0R0R0R0R0R0R0R0R0R0R0R0R0R0R0R0R0R0R0R0R0R0R0R0R0R0R0R0R0R0R0R0R0R0R",
     "0R0R0R0R0R0R0R0R0R0R0R0R0R0R0R0R0R0R0R0R0R0R0R0R0R0R0R0R0R0R0R0R0R0R0R0R0R0R0R0R0R0R0R0R0R",
     "0R0R0R0R0R0R0R0R0R0R0R0R0R0R0R0R0R0R0R0R0R0R0R0R0R0R0R0R0R0R0R0R0R0R0R0R0R0R0R0R0R0R0R0R0R",
     "0R0R0R0R0R0R0R0R0R0R0R0R0R0R0R0R0R0R0R0R0R0R0R0R0R0R0R0R0R0R0R0R0R0R0R0R0R0R0R0R0R0R0R0R0R",
     "0R0R0R0R0R0R0R0R0R0R0R0R0R0R0R0R0R0R0R0R0R0R0R0R0R0R0R0R0R0R0R0R0R0R0R0R0R0R0R0R0R0R0R0R0R",
     "0R0R0R0R0R0R0R0R0R0R0R0R0R0R0R0R0R0R0R0R0R0R0R0R0R0R0R0R0R0R0R0R0R0R0R0R0R0R0R0R0R0R0R0R0R",
     "0R0R0R0R0R0R0R0R0R0R0R0R0R0R0R0R0R0R0R0R0R0R0R0R0R0R0R0R0R0R0R0R0R0R0R0R0R0R0R0R0R0R0R0R0R",
     "0R0R0R0R0R0R0R0R0R0R0R0R0R0R0R0R0R0R0R0R0R0R0R0R0R0R0R0R0R0R0R0R0R0R0R0R0R0R0R0R0R0R0R0R0R",
     "0R0R0R0R0R0R0R0R0R0R0R0R0R0R0R0R0R0R0R0R0R0R0R0R0R0R0R0R0R0R0R0R0R0R0R0R0R0R0R0R0"]⟩,
  ⟨["lvt"],
    ["WjuDQ1Q1Q1Q1Q1Q1Q1Q1Q1Q1Q1Q1Q1Q1Q1Q1Q1Q1Q1Q1Q1Q1Q1Q1Q1Q1Q1Q1Q1Q1Q1Q1Q1Q1Q1Q1Q1Q1Q1Q1Q1Q1Q1",
     "Q1Q1Q1Q1Q1Q1Q1Q1Q1Q1Q1Q1Q1Q1Q1Q1Q1Q1Q1Q1Q1Q1Q1Q1Q1Q1Q1Q1Q1Q1Q1Q1Q1Q1Q1Q1Q1Q1Q1Q1Q1Q1Q1Q1Q1",
     "Q1Q1Q1Q1Q1Q1Q1Q1Q1Q1Q1Q1Q1Q1Q1Q1Q1Q1Q1Q1Q1Q1Q1Q1Q1Q1Q1Q1Q1Q1Q1Q1Q1Q1Q1Q1Q1Q1Q1Q1Q1Q1Q1Q1Q1",
     "Q1Q1Q1Q1Q1Q1Q1Q1Q1Q1Q1Q1Q1Q1Q1Q1Q1Q1Q1Q1Q1Q1Q1Q1Q1Q1Q1Q1Q1Q1Q1Q1Q1Q1Q1Q1Q1Q1Q1Q1Q1Q1Q1Q1Q1",
     "Q1Q1Q1Q1Q1Q1Q1Q1Q1Q1Q1Q1Q1Q1Q1Q1Q1Q1Q1Q1Q1Q1Q1Q1Q1Q1Q1Q1Q1Q1Q1Q1Q1Q1Q1Q1Q1Q1Q1Q1Q1Q1Q1Q1Q1",
     "Q1Q1Q1Q1Q1Q1Q1Q1Q1Q1Q1Q1Q1Q1Q1Q1Q1Q1Q1Q1Q1Q1Q1Q1Q1Q1Q1Q1Q1Q1Q1Q1Q1Q1Q1Q1Q1Q1Q1Q1Q1Q1Q1Q1Q1",
     "Q1Q1Q1Q1Q1Q1Q1Q1Q1Q1Q1Q1Q1Q1Q1Q1Q1Q1Q1Q1Q1Q1Q1Q1Q1Q1Q1Q1Q1Q1Q1Q1Q1Q1Q1Q1Q1Q1Q1Q1Q1Q1Q1Q1Q1",
     "Q1Q1Q1Q1Q1Q1Q1Q1Q1Q1Q1Q1Q1Q1Q1Q1Q1Q1Q1Q1Q1Q1Q1Q1Q1Q1Q1Q1Q1Q1Q1Q1Q1Q1Q1Q1Q1Q1Q1Q1Q1Q1Q1Q1Q1",
     "Q1Q1Q1Q1Q1Q1Q1Q1Q1Q1Q1Q1Q1Q1Q1Q1Q1Q1Q1Q1Q1Q1Q1Q1Q1Q1Q1Q1Q1Q1Q1Q1Q1Q1Q1Q1Q1Q1Q1Q1Q"]⟩,
  ⟨["pp", "prepend"],
    ["WnH5bT0WI0hC1XI0WaF0XcYC0F0cR1lT0WiP010d00XB5rI0j90"]⟩,
  ⟨["ri", "regionalindicator"],
    ["ZdoLP"]⟩,
  ⟨["sm", "spacingmark"],
    ["XhD0WO0228311WJ1WS16121WN0WR2X40WR28011WM1WT06121YL0113212WL2WU3WU1WR02011WF0E1WS15212WM1X",
     "E166J1X10Z30ZE1X10aM091P1WD0WxC07711g53224115c71WR010L5ZL0WQ3X20U041X102210WM781aG0L0WbX81",
     "20XQ1WJFZI0WH0WH14121YI121O0a202150cK1111110vpD010Z30WE241YM0O1WS0WH290E0Y0231aH2W01WS0132",
     "121L1XN1F011YA28130YE160111020cL16320YK28110YG011YH070dD290d04117010ZI28340XM0T1X00i40E0YD",
     "07020bR44110g91C0WH181mmA2YsOWN"]⟩,
  ⟨["t"],
    ["ZqPXPWqqCWH"]⟩,
  ⟨["v"],
    ["ZoFX9WqsBMWdvF033"]⟩,
  ⟨["zwj"],
    ["dlL0"]⟩]

def wordBreaks : List Entry := [
  ⟨["cr"],
    ["D0"]⟩,
  ⟨["dq", "doublequote"],
    ["W30"]⟩,
  ⟨["ex", "extendnumlet"],
    ["Y20djL0F1J0WxY61O2cM0"]⟩,
  ⟨["extend"],
    ["tOYIdR6dFWD10111110XAAWHKG0Y86252113W40UQXTAWR890O3181214WC2WS8WBN1W1WN21H16A1T2WP01621229",
     "0A1Q022WP014412230U130B2WP0171212K1M512WP016212272A1U0WS4321390W94WO016121371B1T2WP0161213",
     "71B1F0C3WO116121390A1T2X80451017I1WU026C7Y5028B6XB1R0101041WIJ115A1W490Y7JN342122633DB10A3",
     "rL2zG3S2T1U1X2W090WE210YO1W30YPB4Bc24WQ91S20WHUWI4WGGW78C2UCWPDWHJZS21K406022bCX1lS0b9W1Yb",
     "12ZH0Y3W0mR5YC1WVh1319W11XI1dO03040N440XL1WJHQHD0W77PCWD3WGDW50X5DC081WE2WJ012215110WA451c",
     "J711qXT0sOFGFgP1oG0c90ZP4WrR21153W9240aA1nF3X34f71XH3X8AWI3YT2WMEWA021A3WEA70WU2W5DG1WD0C2",
     "WHD8311XUB6020a2BL3WO116212290A12634X581020131410E1XKHN0XJJcI628R1XKGYDCY8Ed8EcS511231011Z",
     "H62630S9W9613809AWFFi2717XKL1DYT530111610X441114g639110WH634N0amH06EgxPHXnG4WS6WXP01WN73XJ",
     "0B1pi41ZwOWE2MmF4358726U3ZO2XWQWN4WI80E0M41EWhR61G261114Y70a56h30WU3lC3d61sN6YG6Xv84vkmSY2",
     "Z4cM"]⟩,
  ⟨["fo", "format"],
    ["aI0WiQ0Zt50XZ11Q4WI419WxdS0d12ix3FWaf63alQ7vtrU0"]⟩,
  ⟨["hl", "hebrewletter"],
    ["Wm0Q43XYeI0191C1410111119"]⟩,
  ⟨["ka", "katakana"],
    ["huU4Y813XS13cNFbMWF1XPWsg3WOWkz23161110e82WJ0E3"]⟩,
  ⟨["le", "aletter"],
    ["X3P6PWG0A0405M1U1kE6W2YJ41123106012101J1XK1ZE8aA1W623101W910YB0WDWBW411Y510F171A220F11TTXQ",
     "B0OW191405L409030NO7A5N15HWAWRWM30I079FF47212L16103330G0D112E1A085412L16111111W0310J2G8121",
     "L16111430I0F1N0B7212L16111430U112F0H015321331101131323BM0WL7121M1F30Q22021U047121M191430W0",
     "111F1H8121W920G05282O55H3N181026f30X171W4R4dRW610502WB1fM132610132W9132W1132610132E1WP132X",
     "4W6FGXN253oU2G1P5XC3A7HDIEHEC12aKXQ742W2105X7AUc8McLWFH7WNTD1AWCQW4WA2AW42A5WB22WA31511305",
     "b5X2dT252W625271010101U2WL1610321633254C5216YN0D0GCY8040291034601010131A235440HW9v7WKWwGcB",
     "6331CW610502WO70GM9616161616161616XI0k40WM1bEWB1Y0HW0ygEWbHX5WE2dK3FA1KWFGU2XHObB211017LF1",
     "2131MTWKEWIX053011BRAMPS7WFS0WHW9N217ZOA72C5252596161WQ6YLTgoBCM4WHef56C4WPY4W2gLIX12WMW9B",
     "YN41ZAW5P6PX7U35252522W4B1P1I111E2DW3YTX7WLdJS3WHWGW0DT5W6AT2W44714WBa2IW44W44W88WKCA1E161",
     "11A1E16113WKCf09LA7O51WA18X75201WC11302MAM9UX3I11ALAPX8WO61X20F3121SWBS3SW471RRWMALAIDHYHX",
     "AWOWJDWJDW4W7R9Md2WA61G2WSSA08LWBHWFKRMCWLWQ120DWDW1OQW4T0208W330CWGE3L010W4H1OJ1X1610131E",
     "197WFW77212L16111430I0C4U910201W610P010WDWLI3K2UWGK110aTWFWA3W5WGK0WSWBD0fHWCYNX1W07202711",
     "1NF010Y172W7G010S0AW870L0BWEJ0IXAbDW1W081W5H0WITYJ6111W6L0P5111W0E0fHIF01C1W2Z00XHyMY9YHHb",
     "9Xs1Y3FWYHH5PZZQ5nOcYLTWuQnA7UHXGHTIWGG3W0K5IiTWDbPX1Z4XC50X4CX2110pdGYD5C3879bc7XM1X81120",
     "21231B10161X21327161R131410361fT2O1O1U1O1U1O1U1O1U1O17WxFU65dDWUZMWDA6G0fBTIWCkJRcBT20kU61",
     "3111E1bAWSX570WcQ31Q1110201913101060401010121110201010101011102316131310191G52141Gp8P6P6P"]⟩,
  ⟨["lf"],
    ["A0"]⟩,
  ⟨["mb", "midnumlet"],
    ["WF0dkG1A0WxaN0aP060"]⟩,
  ⟨["ml", "midletter"],
    ["WR0Z00s60k60ZO0bzA0WxYJ0X30bA0"]⟩,
  ⟨["mn", "midnum"],
    ["WD0E0vS0lQ0Z61Y10hN0bjJ0WxZK030aS0E0"]⟩,
  ⟨["nl", "newline"],
    ["B1YR0di71"]⟩,
  ⟨["nu", "numeric"],
    ["WH9WlL5XS910YK0I9bC9bC1XI0Z79YP9YP9YP9YP9YP9YP9YP9YP9YP9Y39YP9X89dU9X89Wy29W79eL9Z4AaA969a",
     "R9XO9ZA969WaqN9qR9W79bC9M9XO9i39rZ49WjJ9XdC969uL9XF0F0W39WT9ZK9dU9g19YP9h29Y996JXE9iJ9Y99q",
     "B9XO9cT9X89iJ9mlL9XiH9XO9ZA9m79uiA9XwDWIXjC9iJ9l69cU9wG9ZyF9"]⟩,
  ⟨["ri", "regionalindicator"],
    ["ZdoLP"]⟩,
  ⟨["sq", "singlequote"],
    ["W80"]⟩,
  ⟨["wsegspace"],
    ["W10ayN0XlD612XM0Za10"]⟩,
  ⟨["zwj"],
    ["dlL0"]⟩]

def sentenceBreaks : List Entry := [
  ⟨["at", "aterm"],
    ["WF0dkS0WxaN0b10"]⟩,
  ⟨["cl", "close"],
    ["W3042WI010T010WE0F0YvL3WyP1Xl97P1A1WN1E1pD3T1WYI57DXH1W09i0LX13W11WX3DE129O0I7iO92712WsoR1",
     "bT1SF21G5aE1WI010T0101111XYuA2"]⟩,
  ⟨["cr"],
    ["D0"]⟩,
  ⟨["ex", "extend"],
    ["tOYIdR6dFWD10111110XAAWHKG0Y86252113W40UQXTAWR890O3181214WC2WS8WBN1W1WN21H16A1T2WP01621229",
     "0A1Q022WP014412230U130B2WP0171212K1M512WP016212272A1U0WS4321390W94WO016121371B1T2WP0161213",
     "71B1F0C3WO116121390A1T2X80451017I1WU026C7Y5028B6XB1R0101041WIJ115A1W490Y7JN342122633DB10A3",
     "rL2zG3S2T1U1X2W090WE210YO1W30YPB4Bc24WQ91S20WHUWI4WGGW78C2UCWPDWHJZS21K406022bCX1lS1b8W1Yb",
     "12ZH0Y3W0mR5YC1WVh1319W11XI1dO03040N440XL1WJHQHD0W77PCWD3WGDW50X5DC081WE2WJ012215110WA451c",
     "J711qXT0sOFGFgP1oG0c90ZP4WrR21153W9240aA1nF3X34f71XH3X8AWI3YT2WMEWA021A3WEA70WU2W5DG1WD0C2",
     "WHD8311XUB6020a2BL3WO116212290A12634X581020131410E1XKHN0XJJcI628R1XKGYDCY8Ed8EcS511231011Z",
     "H62630S9W9613809AWFFi2717XKL1DYT530111610X441114g639110WH634N0amH06EgxPHXnG4WS6WXP01WN73XJ",
     "0B1pi41ZwOWE2MmF4358726U3ZO2XWQWN4WI80E0M41EWhR61G261114Y70a56h30WU3lC3d61sN6YG6vniAY2Z4cM"]⟩,
  ⟨["fo", "format"],
    ["aI0WiQ0cP0ZlA0XYT021Q4WI419WxdS0d12ix3FWaf63alQ7vtrU0"]⟩,
  ⟨["le", "oletter"],
    ["j9043bM0W566BQ010Z90kJ0YPQ44WDWBW411Y510F171A220G01TTXQB0OW191405L409030NO7A5N15HWAWRWM30I",
     "079FF47212L16103330G0D112E1A085412L16111111W0310J2G8121L16111430I0F1N0B7212L16111430U112F0",
     "H015321331101131323BM0WL7121M1F30Q22021U047121M191430W0111F1H8121W920G05282O55H3N181026WRW",
     "G11C6WR110141N101911902410L3W10X171W4R4YMWBK0G5433031724CC0X3WB2fL132610132W9132W113261013",
     "2E1WP132X4W6FYKoU2G1P5XC3A7HDIEHEC12FWKW4040X5XQ742W2105X7AUWIT24BWC4PWNM9WLXK0Y0WFH7WNTD1",
     "AWCQW4WA2AW4IWB22WA3151130WYS3X9223YY7WO70GM9616161616161616XI0k42P874244XN621XR135WB1Y0HW",
     "0WHFlGbvJX2sWMX5WE2dK3FA1X40G0W1XHW88YB060YA03612131MTWKEWIX053011BRAMPS7WFS0G419A41W9N217",
     "KM303WI1031242010O22A72C525259616ZLW3TgoBCM4WHdtKgO2YCX50191C141011111YEW2gLIX12WMW9BYN41Z",
     "AYCWO2U35252522W4B1P1I111E2DW3YTX7WLdJS3WHWGW0DT5W6AT2W44714YTXFY5W88WKXUWKCf09LA7P1Z15201",
     "WC11302MAM9UX3I11ALAPX8WO61X20F3121SWBS3SW471RRWMALAIDHYHXAaSW4W75W00dOWA61G2WSSA08LWBHWFK",
     "RMCWLWQ120DWDW1OQW4T0208W330CWGE3L010W4H1OJ1X1610131E197WFW77212L16111430I0C4U910201W610P0",
     "10WDWLI3K2UWGK110aTWFWA3W5WGK0WSWBD0X9QW66aUWCbP72027111NF010Y172W7G010S0AW870L0BWEJ0IXAbD",
     "W1W081W5H0WITYJ6111W6L0P5111W0E0fHIF01C1W2Z00XHyMY9YHHb9Xs1Y3FWYHH5PZZQ5nOcYLTWuQnA7UHXGHT",
     "IWGG3W0K5IiTWDi0XC50X4CX2110SbgS8WdSWA9ee7316111eBF0T220E38hNXhEYD5C3879eaC0l5WDA6G0fBTIWC",
     "kJRcBT20kU613111E1bAZA0WcQ31Q1110201913101060401010121110201010101011102316131310191G52141",
     "GZnIWij1W1ZeU6c42azQEct1Fp1XmHmEWmIaZ95Zg6"]⟩,
  ⟨["lf"],
    ["A0"]⟩,
  ⟨["lo", "lower"],
    ["Y4PWG0A040W5N17101010101010101010101010101010101010101010101010101010111010101010101011101",
     "010101010101010101010101010101010101010101020101220102031402032202010102011102030102122602",
     "020101010101010101110101010101010101120103010101010101010101010101010101010101010101010101",
     "01010101016202110401010101X61W471U4ZG0103023I0RW31132101010101010101010101014102021WKWG101",
     "010101010101010101010101010101090101010101010101010101010101010101010101010101010101020101",
     "010101011101010101010101010101010101010101010101010101010101010101010101010101010101010101",
     "010101010101010WHW9YWH0tJ5Xd8810YOb5X30101010101010101010101010101010101010101010101010101",
     "010101010101010101010101010101010101010101010101010101010101010101010101010101010101010101",
     "010101810101010101010101010101010101010101010101010101010101010101010101010101010101010101",
     "01010101010101885A78785A7878D2787878411603211832187A211YS0D0GCYG03130R04040218340W2F40w6PW",
     "y2WG10311010104011173010101010101010101010101010101010101010101010101010101010101010101010",
     "101010101010101010101010101011701040CW61050WWcQ0101010101010101010101010101010101010101010",
     "10J010101010101010101010101012Z90101010101012101010101010101010101010101010101010101010101",
     "010101010101010191010201010101040102012101010101010101010105050101010101010104010203010101",
     "01010M21012vFWB1D6XHqYE6C4WYBPWdKW8ZCW4a0A1E1611jH0221WA18WfEWJZ1LXzMW0rt2W0wX1PQ61HQPQ310",
     "161AQPQPQPQPQPQPQPQPQRSO15QO15QO15QO15QO1510WxF91J65dDWUXeRW2"]⟩,
  ⟨["nu", "numeric"],
    ["WH9WlL5XS911YJ0I9bC9bC1XI0Z79YP9YP9YP9YP9YP9YP9YP9YP9YP9Y39YP9X89dU9X89Wy29W79eL9Z4AaA969a",
     "R9XO9ZA969WaqN9qR9W79bC9M9XO9i39rZ49WjJ9XdC969uL9XF0F0W39WT9ZK9dU9g19YP9h29Y996JXE9iJ9Y99q",
     "B9XO9cT9X89iJ9mlL9XiH9XO9ZA9m79uiA9XwDWIXjC9iJ9l69cU9wG9ZyF9"]⟩,
  ⟨["sc", "scontinue"],
    ["WD1C1vS0kD0aJ1kP0ZdD050XZC1ZcF0WswJ111S1T12120A0aD1C1XA0"]⟩,
  ⟨["se", "sep"],
    ["Z90di71"]⟩,
  ⟨["sp"],
    ["9011J0Z30auJ0XlDAW50WG0Za10"]⟩,
  ⟨["st", "sterm"],
    ["W20T0WhK0ZN2aP0WC2cT0WU01031eE1WuS1uF041tT0bC1a21WE050f41gD3a71A121T2b11X31zQ192YgN2eR0D0M",
     "1iQ0WVa20dM1cA030hA1XO1Y20ZS1ZN2ZK1d10qwC021X11aE0T0X30XxE1Wf64WD3b31YO3Z32Z5160G1XQ111YF0",
     "eJ1YO1h115EYC1d12lL010d31XP1iH1rA1XC1pVL1Z90X31B0mQ1eH0ptA0cyU0"]⟩,
  ⟨["up", "upper"],
    ["X3PY8M16W201010101010101010101010101010101010101010101010101010102010101010101010201010101",
     "010101010101010101010101010101010101011101031101112231112311110101110201112101130711111101",
     "010101010101020101010101010101021101210101010101010101010101010101010101010101010101010101",
     "010107111201310101010eA0103080601210111G18W40223010101010101010101010105020112WJWH01010101",
     "010101010101010101010101090101010101010101010101010101010101010101010101010101011101010101",
     "010201010101010101010101010101010101010101010101010101010101010101010101010101010101010101",
     "0101010102W6YV6W61050s9XNXdP0h201010101010101010101010101010101010101010101010101010101010",
     "101010101010101010101010101010101010101010101010101010101010101010101010101010101010101010",
     "901010101010101010101010101010101010101010101010101010101010101010101010101010101010101010",
     "101010109785A78785B010101087O7878784B4B3C4B4dD040322220346010101323A150QFJ0vCPWxBWGWH01220",
     "101013102082101010101010101010101010101010101010101010101010101010101010101010101010101010",
     "10101010101010101010801040WWeM010101010101010101010101010101010101010101010J01010101010101",
     "0101010101010ZB010101010101030101010101010101010101010101010101010101010101010101010101010",
     "A010111010101040102010301010101010101010101414101010101010101310113050101010O0sbQPWdCW8ZCW",
     "4a1A1E1611Wv3WJa2LXzMW0rt2W0wX7PQPQPQ01120212317QPQ1132716R113141036RPQPQPQPQPQPUOW2OW2OW2",
     "OW2OW20Zn3W2XZGP6P6P"]⟩]

end LocatorPath.Unicode
