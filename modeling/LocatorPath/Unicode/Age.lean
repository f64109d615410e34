import LocatorPath.Unicode.CharSet

/-! The versions of the Unicode standard that characters were added in. -/
namespace LocatorPath.Unicode

def ages : List Entry := [
  ⟨["1.1", "v11"],
    ["0l54TWPXQ7WF19MX7Q1I1403056101J1WC16301010101HDB1X31B1W99WL21213R2721WOW6261W710W7918CQ54N",
     "0E0301P5IDD2X9241E1T29lN21WL2H243OG217212L161033201621229041142K7025412L1611111120144122B3",
     "107EC21610121L16111429121220F059H217212L1611232731228141124AH11532133110113132371244321390",
     "FBE217121M1914461213719149I117121M191446121371701149I117121M1F452213908149ZLWQ4SW611021102",
     "06316121010211C122410152921jGW6AW7404XR5X55XJYb9ZU5XR6L252W625271010101U2WL1E1D251I22181WF",
     "1MW463QHAW6HUWPQWGDXSLcOE01YRZ9W5RALZELZPAXHGJ6XNZL3132R1W31013301626EU3N1DXb5WO701XL452Y0",
     "6W84Y01FY3S3W4SR3WIFB4WF1YP4Y52UbxNqs7mZDbz5bO6C46O141011111YEW2gNGX12WMW9BW53CK491I134210",
     "1ZA201Y02Y0352525223616E2"]⟩,
  ⟨["2.0", "v20"],
    ["WjUG1CK0Xj7X91W17Q45101K3610YyR0m00WbYIgoBXly91Xbb01Xbb01Xbb01Xbb01Xbb01Xbb01Xbb01Xbb01Xbb",
     "01Xbb01Xbb01Xbb01Xbb0Zhh5"]⟩,
  ⟨["2.1", "v21"],
    ["dqP0Wxk30"]⟩,
  ⟨["3.0", "v30"],
    ["l63U72HYO4WI0A4XP8J0YN030101010U0C0X40C0WB123XU1a10bE2Y5150F0WB41D1T3QWMWHWm111H3N18102630",
     "451017I2h10WC0N270121E20WHW2141116336PiJ61X010132610132W710132U101326101326161M1U1013261W7",
     "1I6RW4XMCp99S3XIZJXU39ME196XP8WAXV30O5Y22WJ1XN1XA0YA8dL0YS01TZE1jN7W20XO1hQd7WjDP1XQCbRQBW",
     "T230gCNnQbv9qxHWbH3H2F1B1210rzU0We32"]⟩,
  ⟨["3.1", "v31"],
    ["WWK1XZm9W0WfPU13CQaQW62W6Wsd4cSAW73aOmJXM1X8112021231B1013111X21327161R131410361fR4eA4WIfp",
     "AWiiNqo7mEtcrA0UY2"]⟩,
  ⟨["3.2", "v32"],
    ["mH0eN0JCYB1S0ZN1WQ12121WIFg91fB0XjH1WnOC16BM9JCC1211XfR0644074D0X01WJ6XKEaDBcPDZ00UWKe5JZR",
     "9XQ7M1XSB29c5DXSR4Fd8lFWh62XP181Y10cNFXJEXJEzfE1G0C030rsBWRyE03FWM1WD0cI1"]⟩,
  ⟨["4.0", "v40"],
    ["mI0I2YQ1X1GXI752ZR4lK398X22ZP1F0WE2T2j20aT0X5010ZC0XM2D0X50WS0Z57b71XyQ0I9dES3B4B403WA24YE",
     "W0tOYEsU1cD0q81eN0dS1YN7E1Wa2DWw91WI0WC1XG3aC3Y61W00bvKX1WkwA0XB1j5B1P1I111E2DW3YT524WD38n",
     "IT10ZA1W7XH29wH5201WC113020WsVAXOgL0vtZ4cM"]⟩,
  ⟨["4.1", "v41"],
    ["n9AdU4a43cT1aF0W32X50I0WR5cOTm00XI0kM0WG0WW91eG110dI0X10X10W80W00W00W00F0W80N1W0PWmMWA6P69",
     "41W1R21w7XPq6116WI4T3WM0XI0F0pOAnE0Y81IA5FdM6w25cJWF1WFW2YDEWDAWM90GM9616161616161616W2N41",
     "z0FaJ0yXCLWy0McGWCqxBYCvG9v0XCm6W44DWoS31157121Q424888WraNX7Wa21"]⟩,
  ⟨["5.0", "v50"],
    ["nKDeK2fR0WB5G3aB0lLWRhC111wT1D1Ys1XD4WDnP6WK1t43Y01WM0oABs10dS3w4653f6C73WWpJ351e7WOur5P50",
     "bXSxAZLY5D3WknGHWZR1"]⟩,
  ⟨["5.1", "v51"],
    ["xC321XP0aS0ZGFc94B4W14eNHl11c50W40bK0T1YF0YF0Q181K7b3060T1C536kQ1Y4032XF050207245QX141XZC0",
     "sCWB3BX8WO3E3WJfLRaQ3XS5gF0ZF0Y10WM3WfT0L933dG0W03v544W934e121245gDW0O32ItK0a7Jyd37Wh7eKKW",
     "02H8RZ742YDYH4Z4X69BW7XLB0a5WN9D2923reN2x5BWLWEZ6S3WHWq3P50WrcR0dbKWC4Y6"]⟩,
  ⟨["5.2", "v52"],
    ["WgE1sHWE2Eb70XF060W41Z40Wm93b73b24X64XK5lG0pA8n2X7aP1WF0X7X01S2A696DmJW3dI0rE2ZR2WN0oH0rB1",
     "T2491I104NXP0WWT4dU0D1YE6f90WXJByZR7WfDWGiDXPf29aBRY7S3XF1A41Z4R4X4O4c7WE29goUM4WHeaB2Yq4L",
     "18b01fEW0Z4WM3S2Q57Z4XAm8UlHX3df0WYGWoe8A5U20B0102030348070P01120A320YI0FW2E8WmZBZeP"]⟩,
  ⟨["6.0", "v60"],
    ["WgG1d00X00kFR20c21J061R4lA5iU0G0J0nF3XB1xU1Xc6WK83lC0qD7S0v9AsH0J013T041S0W40104291WL2O0E0",
     "E1WkE0E0WYQ2WVX81eK111E9XI0tU525259616qiRFah5XF4Tsf3nAnn71mbJE2D2E1EXI01A10111212571619681",
     "021194119XDP11WG8L1aJW1F51X73JCW514LGFX0101aQ133WUINZN41F1210101012152310231B4AWHX7WRYMWpX",
     "Rc4"]⟩,
  ⟨["6.1", "v61"],
    ["WjS0YN0qG01AWOQl10WWD1kM050WG2Xv32C5d87WC3XwD010WgE1WK050WP1bG9zcP0WsT7W40cP1M0XF1sTMqY51Z",
     "XEWO61WwAO796WL1DWTXA79WcCWO89skEX6BWFGGWXpJ31Q1110201913101060401010121110201010101011102",
     "316131310191G52141GWL1pC1WVJ3b20G0301010103061401140"]⟩,
  ⟨["6.2", "v62"],
    ["dr80"]⟩,
  ⟨["6.3", "v63"],
    ["WoE0cV23"]⟩,
  ⟨["7.0", "v70"],
    ["xR0iL7Y01YP0qG0B5XE0YR070pJ0WK0XE0Z30cB9XhB7mL1hTEnB1cKErR2vG6tT0WZF2AP2W02W23B17oT6WWWM5c",
     "TBB221X70kNUZ13aLWG41rWC6wO1J0f9RW40WHWBhHW88WKB0ZKf09LA7d0X088jUW0W1W74BZDH73C6WdM0bMW7XO",
     "0C06JBH1WBYLWR597217212L16111428212290562634dJX989aBWM2HWNX6B9nOXKC0jEWPXcRWAbGB50nnBU1941",
     "Y3T25AX7A9161K5Iqi8YD5C387927gm2bA2FXY90W1LL1m5B90X80MBW60535BH6X9010aR041X1146TH1W91XNX81",
     "DWGX89GC33ZGXMWCB4WO896W88T"]⟩,
  ⟨["8.0", "v80"],
    ["XeQ1WF0m60gB0dC0WsB025Yh90bH1XsL3zvP8Wu00cN0W35fE1oL3CXHqyM1Xv8I1154b212F2WEpKWJDWJ75WdG3E",
     "4a5610131E1AXO0XH0pDJeBP3E4FYdU0cDb9daPnOWbaNAWo9q0F41Ebl72XG1XH4W57d70XD4cQ1ZF0nH8YA4WS0W",
     "or3azQ"]⟩,
  ⟨["9.0", "v90"],
    ["XeT7MEyQ0bK04216N2ZV38gT0WnG3XrO1WWfJ0dU0sp41uQW44W4YlF0jFXR1010lICWk181WD1DAS3W02L1DrZN0W",
     "0bgHJtArpB61G261114XfTXC5941XaUHZI0vO0WA0eL1W22mJ517802B1B4EW7C"]⟩,
  ⟨["10.0", "v100"],
    ["Xc5AhT1d45lG0WR1ZaR0d63rR0vP0XXI0p64sR0yjOKviL2bXCX98WK2M14oG6111WC30111889qzG0mXHe5XJhNlw",
     "F5WaH1W31lNBJ08711P0ICW75WPMWuq6ct1"]⟩,
  ⟨["11.0", "v110"],
    ["WiC0W80Y90lT2bP0eJ0YQ0hP0Z30YaL0WXOWB22YzL2MO4EnT4sN0ykD4XWU081fE1uwM1I0rDW889jKW88WAgU0YP",
     "2l40eB0rH0cCWSoK0rO5111W5111579f0OqYLXSbs34oyOJZ26bp6X5WaU0WlO0c23h02S4233013OAD971W5OY3D"]⟩,
  ⟨["12.0", "v120"],
    ["YeT0lU020201540707120D0YtK0Yy80WM0o20WWfK524yS1vsLMWaC0oB0sU72WE2Aa41Wh5WID0agM8krJ540WG8X",
     "S1bhK5gVD2H3hq1WD3D2941gRWQ50WpU0zJWTWYG0WiK0W50cCBeA2WG0WI090WA531A53722WHXLS34252D5"]⟩,
  ⟨["12.1", "v121"],
    ["in40"]⟩,
  ⟨["13.0", "v130"],
    ["Xf69q20iR0Z00YlA1Zk10rE2x44ciS9qwMCXXA3WB1WM0vL3ryN0YiDWA1221d6Rh70ZA1pU051Wc462027111T112",
     "B99WqA0qg90B1cb0kHWB8voT2Y02WU0WgI1W41j11XS0Y8041WB162T0aD0E3FI7692D6WAZM1WNW69Wjl06ss2aZ9"]⟩,
  ⟨["14.0", "v140"],
    ["WoF0o5U1167L0IAx50W10Z30Xr307090cM0r7DZ10WH1pF0rR0YWC0WG0l3Azd92XX01E11014O2rf10h9FZ30WF1W",
     "zDA1E16111A1E1611jH51WA18XWKPcD5XE0Wn70ZA6x5FalRY5kn0XG19ni131611e93cyJWE2M9YMmM1Yk1UxDUWg",
     "R613111EYyO2dO0hK0XK0aJ1WD3A382H26786WjtI1ZfR3"]⟩,
  ⟨["15.0", "v150"],
    ["YiT0k90XbcH2vP2Xf69WWMG1W93Ram109SWXd30W30dwTJYdM5dDWUW20WZ3WAZsL0ZR244XR0qG2F1W52B210E1A1",
     "C0E1WoZI0tlEZg6"]⟩,
  ⟨["15.1", "v151"],
    ["ht83kU0azy4p1"]⟩,
  ⟨["16.0", "v160"],
    ["XdT0ZzG1WG0dH1XVQ2YpB1WVhI2C2uVAWKWy8W63S81eR2WO0Wb8910201W619102013191181t5JWe4W2E9wR0anI",
     "ZZQcrKWQYb9WQdh90lt8d16j1bZQWB40ZzC941jL050WF070L02090c8W5"]⟩]

end LocatorPath.Unicode
