import LocatorPath.Unicode.CharSet

/-! The general categories of the Unicode character database: every code point outside the
surrogate block has exactly one. -/
namespace LocatorPath.Unicode

def categories : List Entry := [
  ⟨["lu", "uppercaseletter"],
    ["X3PY8M16W201010101010101010101010101010101010101010101010101010102010101010101010201010101",
     "010101010101010101010101010101010101011101031101112231112311110101110201112101130702020201",
     "010101010101020101010101010101020201210101010101010101010101010101010101010101010101010101",
     "010107111201310101010eA0103080601210111G18W40223010101010101010101010105020112WJWH01010101",
     "010101010101010101010101090101010101010101010101010101010101010101010101010101011101010101",
     "010201010101010101010101010101010101010101010101010101010101010101010101010101010101010101",
     "0101010102W6YV6W61050s9XNXdP06WB22fA010101010101010101010101010101010101010101010101010101",
     "010101010101010101010101010101010101010101010101010101010101010101010101010101010101010101",
     "010109010101010101010101010101010101010101010101010101010101010101010101010101010101010101",
     "01010101010109785A78785B010101087XA3C3C3C4B3dE040322220346010101323A150WU0XtIWGWH012201010",
     "131020821010101010101010101010101010101010101010101010101010101010101010101010101010101010",
     "1010101010101010801040WWeM010101010101010101010101010101010101010101010J010101010101010101",
     "010101010ZB010101010101030101010101010101010101010101010101010101010101010101010101010A010",
     "111010101040102010301010101010101010101414101010101010101310113050101010O0sbQPWdCW8ZCW4a1A",
     "1E1611Wv3WJa2LXzMW0rt2W0wX7PQPQPQ01120212317QPQ1132716R113141036RPQPQPQPQPQPUOW2OW2OW2OW2O",
     "W20Zn3W2"]⟩,
  ⟨["ll", "lowercaseletter"],
    ["Y4PWR0WAN171010101010101010101010101010101010101010101010101010101110101010101010111010101",
     "010101010101010101010101010101010101010201012201020314020322020101020111020301021226020201",
     "010101010101011101010101010101011201030101010101010101010101010101010101010101010101010101",
     "0101016202110401010101X61Qb70103032I0RW31132101010101010101010101014102021WKWG101010101010",
     "101010101010101010101090101010101010101010101010101010101010101010101010101020101010101011",
     "101010101010101010101010101010101010101010101010101010101010101010101010101010101010101010",
     "101010WHW9YV4WB22tG5Xd8810YOWCX1C1W2Y90101010101010101010101010101010101010101010101010101",
     "010101010101010101010101010101010101010101010101010101010101010101010101010101010101010101",
     "010101810101010101010101010101010101010101010101010101010101010101010101010101010101010101",
     "01010101010101885A78785A7878D2787878411603211832187A211dQ03130R04040218340WM0Xv3WG10311010",
     "104011155010101010101010101010101010101010101010101010101010101010101010101010101010101010",
     "101010101010101011701040CW61050WWcQ010101010101010101010101010101010101010101010J010101010",
     "101010101010101010ZB0101010101012101010101010101010101010101010101010101010101010101010101",
     "0101017101020101010104010201210101010101010101010505010101010101010401020301010101010Q030v",
     "FWB587XHqYE6C4WYBPWdKW8ZCW4a0A1E1611WvSWJZ1LXzMW0rt2W0wX1PQ61HQPQ310161AQPQPQPQPQPQPQPQPQR",
     "SO15QO15QO15QO15QO1510WxF91J65Xp9W2"]⟩,
  ⟨["lt", "titlecaseletter"],
    ["jJ02020W70cw978787C0F0WG0"]⟩,
  ⟨["lm", "modifierletter"],
    ["r6H4BE47010Z9050kD0cD0a91dL140W009030a50aC0WdR0Z30n70WuI0YE0oM0jU5aJX0D0W3W5r70D0GCYa11cO0",
     "b50k40WC450Y41Y02ynB0WeA5dM0YL0S1YS8XI0N0YC231k40M0ZD0YF0L1YA390rgR0WE1XY151WA18Wk10W10tzM",
     "3lC2W91mNCX2110mWS31611huUWUbF6zB0Wa30"]⟩,
  ⟨["lo", "otherletter"],
    ["aF0F0d8043bM0vLQ43WEW019W411Y510O1A220G01TTXQB0OW1LLWBO7A5N15HW9WSWM30I079GE47212L16103330",
     "G0D112E1A085412L16111111W0310J2G8121L16111430I0F1N0B7212L16111430U112F0H015321331101131323",
     "BM0WL7121M1F30Q22021U047121M191430W0111F1H8121W920G05282O55H3N181026WRWG11C5WS110141N10191",
     "19024N3W10X171W4R4YMWBK0G5433031724CC0YKfI132610132W9132W1132610132E1WP132X4W6FYKoU2G1P5XC",
     "677HDIEHEC12FWKW90X5W31WL742W2105X7AUWIT24BWC4PWNM9WLaLWFH7WNTD1AWCQW4WA2ATYK3151130WYS3Ya",
     "PWOOM9616161616161616mO0WM04XN801XR405WB1Y0HW0WHFlGbvJX2qvP1WaQX5W88dJ4FA1X40WIX7aE0YA0361",
     "2131MTWKEWIX053011BRAMPS7WFWE428A41W9N217KF15303WI1031242010O13A70E525259616ZLW3TgoBCM4WHd",
     "tKgO2YCX50191C141011111YEW2gLIX12WMW9BYN41ZAYC91WD2U35252522W4B1P1I111E2DW3YThHS3WHWGW0DJ1",
     "76W6AT2W447Z4XFY5W88WKXUWKCf09LA7ZS5201WC11302MAM9UX3I11ALAPX8WO61X20F3121SWBS3SW471RRWMAL",
     "AIDHYHXAaSW4W7310ePWA61G2WSSA08LWBHWFKRMCWLWQ120DWDW1OQW4T0208W330CWGE3L010W4H1OJ1X1610131",
     "E197WFW77212L16111430I0C4U910201W610P010WDWLI3K2UWGK110aTWFWA3W5WGK0WSWBD0X9QW66aUWCbP7202",
     "7111NF010Y172W7G010S0AW870L0BWEJ0IXAbDW1W081W5H0WITYJ6111W6L0P5111W0E0fHIF01C1W2Z00XHyMcDb",
     "9Xs1Y3FWYHH5PZZQ5nOcYLTWuQnA7UHXGHTIWGWKK5Ij1W8i2XC50aKbgS8WdSWA9eeNeBF0T220E38hNXhEYD5C38",
     "79eaC0l5WDW20fBTIWCkJQcCT20kU613111E1bAWh631Q111020191310106040101012111020101010101110231",
     "6131310191G52141GZnIWij1W1ZeU6c42azQEct1Fp1XmHmEWmIaZ95Zg6"]⟩,
  ⟨["mn", "nonspacingmark"],
    ["tOYIdR4dHWD10111110XAAWHKG0Y86252113W40UQXTAWR890O3181214WC2WS8WBN1W0WO010474036A1T0WR0438",
     "0K1Q021WQ041412230U130B1WQ0441140K1M510WR020138071B1U0WU0C0WJ030WO012521371B1T0WR0206051K1",
     "S1WQ14380K1T0XA07210XS026C7Y5028B6XB1R01010WOD14115A1W490Y93151121P142G3D02160F0rL2zG2T1U1",
     "U1X2116802A90WE210YO1W30YP2419062c2120WR0161010276920WHD1FWI3WH0141050W98C1W132112WP011301",
     "2WR721ZS21C16406031bCX1s7C403BYb12ZH0Y3W0mR3YE1WVh1049W11XI1dO03040P150ZR1QHD0W77PAWF2WH02",
     "321W80X552121C080WG0WK012215110WB180cL02040qXT0sOFGFWVC0c90ZP4WrR21153W9240aA1nF3X34f71XH3",
     "X8AWI3YU0WNEWA021A2WI32170WU2W5417X00C1WL8A320Y2220116020a2037L1WQ130W6634X85D01010E1XN722",
     "10N0XM5104111cL36111R1XN72011YD0102510Y80102314dB811d811040ZK32140W19W9523809522WFC11i3615",
     "10XKL261111YT530111610XA13010g61B1WL45010N0amH06EgxPB32XnG4WS6WXP0X13XJ0piH1ZwOWE2MmH2H726",
     "U3ZO2XWQWN4WI80E0M41EWhR61G261114Y70a56h30WU3lC3d61sN6YG6vnpHcM"]⟩,
  ⟨["mc", "spacingmark"],
    ["XhD0WO0228311WJ1WR26121A0WC0WR2X40WR28011WM1WR0106121A0Y91113212A0WA2WU3WU1WR014211191S0E1",
     "WR25212A0WB1XD267I1fK1X10aG1406021P1A226L12520A2WrD0U0Z507711g53224115c71WR010901185ZL0WH0",
     "501411WU0U04120WT0221031WH781aG0L0aYK1WVyH120XQ1WJFZI1WG0WH14122YH121O0WE010YG02150cK11111",
     "10vpD010Z30WE241YM0O1WS0WH291D0Y023110aF2W01WR113212290A1XM27020131110Y828130YD2601320cK26",
     "320YK28110YG01160YA01140dD290cU511402010ZI28340XM0T1X00i40E0YD07020bR44110g91C0WH18110mm82",
     "YsOWNYB1uyN165"]⟩,
  ⟨["me", "enclosingmark"],
    ["WbD1axB0WoG312WZmP2"]⟩,
  ⟨["nd", "decimalnumber", "digit"],
    ["WH9WoO9ZA9bC9i99YP9YP9YP9YP9YP9YP9YP9YP9YP9Y39YP9X89dU9X89Wy29W79eL9Z49aB969aR9XO9ZA969Waq",
     "N9qR9W79bC9M9XO9i39rZ49WjJ9XdC969uL9Z49WT9ZK9dU9g19YP9h29Y996JXE9iJ9Y99qB9XO9cT9X89iJ9mlL9",
     "XiH9XO9ZA9m79uiA9XwDWIXjC9iJ9l69cU9wG9ZyF9"]⟩,
  ⟨["nl", "letternumber"],
    ["bYB2Xt5W323YvL0P8E2WVnU9tWPWLjQ080ZA4dmJYH"]⟩,
  ⟨["no", "othernumber"],
    ["aN15022Xj15h45YR2Z96c06H8iU9WYNJWaN9kF0WsB03569bCFWA0sDWSXGLpATWiL0WbP3ZE9U71EW19W8EWVdP5s",
     "pEWDX33H1g0QW53WgU7P6W88XD4M5a512F2WEX28WL1U2XD4YB7O7WA6fK5gBUa39WB3YJ6ZAJh7JWhG1iR8x3IwEK",
     "pYL6uNMvq4JCJYFOapT8yUWR1213XEWD1EWV1C"]⟩,
  ⟨["pc", "connectorpunctuation"],
    ["Y20dk61J0WxY61O2cM0"]⟩,
  ⟨["pd", "dashpunctuation"],
    ["WE0Wi80WK0YtM0WX60XZB5YrK020W0140S0jC0J0YI0WssH1W60A0aE0YuM0f80"]⟩,
  ⟨["ps", "openpunctuation"],
    ["W90WJ0W00YxN010WyQ0XlC030W70WO0F0pE010U0WZ10101010101010XI0W1010101010i1010101010101010101",
     "010X2010W20WY70101010P0I0101010iP0101010103010101020WsoU0bT0T01010101010101030H01010aF0WJ0",
     "W003020"]⟩,
  ⟨["pe", "closepunctuation"],
    ["WA0WK0W00YxM010WyQ0XmO0WO0F0pE010U0WZ10101010101010XI0W1010101010i1010101010101010101010X2",
     "010W20WY70101010WD0101010iP0101010103010101021WsoR0c00T01010101010101030H01010aF0WK0W00202",
     "0"]⟩,
  ⟨["pi", "initialpunctuation"],
    ["aG0dgF02120P0YpP0104020F030"]⟩,
  ⟨["pf", "finalpunctuation"],
    ["b10dg0030S0YpP0104020F030"]⟩,
  ⟨["po", "otherpunctuation"],
    ["W2212201011A131R0X6050E170rK080k15WA0WN02020WD1K111D012XC3Y90WCDcG2WNEW00dD1A0ZG0YR0YS0hI0",
     "C0gQ0XS0A1aDE10YJ0XC441YI5aG0oN8tT0Z02X91a2212W6513f31bU1Z4615a51A6S2Z03WS4X01X27B0vS18788",
     "23223A1019Yg2311YJ0ZJ1422028111021A41923101C22iP2WQ0b30zx01dL2Y60A0YM5h83XO1W9210WI1WG0Y4C",
     "G1Z03Z21G1d10qwA620M0K1233213726011ZP212201011A131R0W5021i72qH0WH0iB0sU0bD0W00dO8W70YJ6X46",
     "XR3zM4WD3b36YG113Z23WH1XH340D012XQ5YE0eJ111YL4A110YB0d2MYC2SCXE0Z62d40dG2a00XU7XL214Y09bT0",
     "Y24WB1pP1XCCaK0WaK4YWQ1kmT1Z90X3480mP2eG3fH0piL0cyT4YWH0wP1"]⟩,
  ⟨["sm", "mathsymbol"],
    ["WC0G2WU010WE040W60W00tM0m02bzJ0D0W82D2ZF0W8460X645140202070W012010W0dJW11XS0UOW95k4090WN7Y",
     "I0fQ42UAFd8Z6MX04W02d9WHK25WtgG0vI012a90G2WU010Z7063YoH1WrnE0P0W00P0W00P0W00P0W00P0baB1"]⟩,
  ⟨["sc", "currencysymbol"],
    ["W50Z13WeH0YU0l21l2170cS0dF0nN0XmA0XfCW1WaXL0rv70YF0ZU0c2131dkT3Wpz90Xn00"]⟩,
  ⟨["sk", "modifiersymbol"],
    ["Y1010X90604030lP3CD56101GYO0E1WfB0baJ012B2D2D2D1Zi51WVlKM91YA1WVF0E1qgSGxN010a70XYVM4"]⟩,
  ⟨["so", "othersymbol"],
    ["aB0204010WVG0dI1Z31bK0A0J1cU0lJ0h10Z6510Z80bL0WA0hJ2F01225K01010Z97151153bB1t89sA0s90a2W2g",
     "C998WjG11311A0116510101040B1E01110WR194231111161U21101UdK74J262XI1TPW86X9MAXJXFMaR181WM8YH",
     "1cUWDWCX2d7lGWGL16W72W01YBcC5gG1WFP1XQCbRQF40D1C0L161fQ149W1W690GUBT80FW0AW7Ff9bvKX1sWQWNw",
     "S3A110nF2rWHFZ30WE2kJ03041D1f38WQG221C30WGWDWrF1o20YeS0XdR74GpWN350qpL0ZY2cMGj1a1YMWTcSAW7",
     "2WS52M17T4WTLX330b0XOWcFlFWO3WJ71D11Wu00YVP0Z50s8WC4Y6CE2E1E1W5Na5WPSDWC4871E5ZUd25sE4G3C3",
     "YP4Y16B40FB4WO896W88T2B41X0fTCD2C395WO7E2A687ZM1XT"]⟩,
  ⟨["zs", "spaceseparator"],
    ["W10Z30auJ0XlDAW50WG0Za10"]⟩,
  ⟨["zl", "lineseparator"],
    ["dmH0"]⟩,
  ⟨["zp", "paragraphseparator"],
    ["dmI0"]⟩,
  ⟨["cc", "control", "cntrl"],
    ["0W0Y2W1"]⟩,
  ⟨["cf", "format"],
    ["aI0WhT5M0b60WI0hC1XI0ZW80XYT4Q4WI419WxdS0d12ZjB0F0ei6FWaf63alQ7vtrU0UY2"]⟩,
  ⟨["co", "privateuse"],
    ["WxpPbpDzvnMXbaU2XbaU"]⟩,
  ⟨["cn", "unassigned"],
    ["xK1637010K0hP0W71WJ130WO7R36AdM0WT1Y8DWS1WI1F0S110B4W0024cK08121M0701241912147132051P13063",
     "21M07020202110532132164016H9309030M0702051A030311E41C670308121M0702051912136332051I9206230",
     "422010222232C3523041151DL4D030N0G190304620311141A6M030N0A051903046252041A03BD030WK03063G1Q",
     "030I2O090117213601085A13BWR3TW5201050O010N1501070A14W0XA0W53W80W50F0DW5bC01411h5041701041W",
     "A041W2041701041F0WQ041X51W12Q5XO161qI2XR6M8O8KBD0302BY11A5A5Q5XR6WC4X89W00C3C312WB15AWD3Q5",
     "B2X01X30T1B5A5E1W0WHXF0aB7WT2F2X04WC1B7WC4m7161W716180101010W01WM0F0E160J13090Y80C1R0D2W2E",
     "W2EZG3qFLBKWwE1W10g84WE01411WP62DO87070707070707070Z2W2Q0XRBbSPXI0XO1YA4WC0Y10XO8WH0zjT2WO",
     "8g7JaT7bK120108KWS2A5WP7X87C5YNAU2XG0B3W20WO8E1A1YANS96161687070WT3Z21A5goCBN3WI3eaA1YDW67",
     "B54Q050102020Z1FjB1WN61W0WB5WK0J04350ZB110b4261616132707951C0Q0J020F1EW2YU433WE2XQ0D21WFWF",
     "Z5T2WIES3W58U4WC4U0W63EWAa31A5W53W53W97WLAC0F07020B0F07022WLBf18M98N60WB09X66110WD02211N0X",
     "A79WGJ024W22R41X1WP3K1WJ0248030T133A696X2W0W83C8WN2T1R4Q64B7XHXBWNWKCWK6WF7A5W72T72bLW00WB",
     "0312F3WNWD7WBLQW6SJN8XG3W58X6911P6A5WM0I7W88Y30KAI0WGWU701040F0B5WS4A5408121M0702050A12131",
     "151471725AA01110W70A0111040A0272SXU05TXA7AaAWN1W7W2X7AA5DIWR5A5KRR1F3NaTWTY6XLB81118020U02",
     "1C8AX781WF1BQXA7XLCXB6AaQW3DA590WE0E9T2W11M0EXA7020WD2102097A56020W602066AeUP6H0WA2TXM1EWJ",
     "CyOY8YI05AbAXs0Y6CWZP9ZZR4nPcYKWRWtSnB6W00A3XJ0A5U169X89A070L4JiSWRbBXTY7XD3WQ6HX15A2DbgT7",
     "WdTW9Aee6407020eCE1S311D47hOXhDYE4D296A18ZXPd25j2XDWF1N8YNWScT9W81b8KX8YSKBKBXP8PZAXN0X902",
     "1112140C01070X30418070S040501270fU1eD1rKE50FWZIW056bQ70H1702054X0W11YIWE2E1A32f9W0GWR41jTW",
     "BbRWC31kE704020F0bB1GW9XE3A32u9X6XDWUb740R0201110A0401015131010103020111010101010201140704",
     "04010A0H43050HWK2dLWD3Y7BF1F0F0W69aJWOTCWD3962D6ZTWVN3H2D2YQ3Y25C31EC3WP7A5W97U1C32WUfUBE1",
     "D2A4WP6F1B596ZN0Y9WX6Wij2W0Zf05c51azRDct2Ep2XmGmFWmHaZA4Zg7swp01TY3Z3cNXaq1Xbb01Xbb01"]⟩]

end LocatorPath.Unicode
