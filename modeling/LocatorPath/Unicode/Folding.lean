import LocatorPath.Unicode.CharSet

/-! Simple case folding: each character that folds to another one, and the sets closed under it. -/
namespace LocatorPath.Unicode

/-- For each character that folds, the distance from the one before and twice the distance to its
folded form, less one when that lies below. -/
def foldingCode : List String :=
  ["X3X21X21X21X21X21X21X21X21X21X21X21X21X21X21X21X21X21X21X21X21X21X21X21X21X21X2XTWo0BX21X21X",
   "21X21X21X21X21X21X21X21X21X21X21X21X21X21X21X21X21X21X21X21X22X21X21X21X21X21X21X2W322222222",
   "22222222222222222222222222222222222222242222232222222222222223222222222222222222222222222222",
   "2222222222222222cO1222222m82iH12222i9122i71i7123a31i11i3122i71iB2iJ1iF124iJ1iN2iP1222222j212",
   "2j2322j2122j01j012222j4124284122412241222222222222222223222222222222222223412222b71YI1222222",
   "2222222222222222222222222222222222dB2222222222222222228rjE122fF1rj8322hH1ZE1ZI1222222222cUcF",
   "WC222429cF7XE2XC1XC1XC2Z42Z21Z22X21X21X21X21X21X21X21X21X21X21X21X21X21X21X21X21X22X21X21X21",
   "X21X21X21X21X21X2N2DG1WS1WI4T1WC2222222222222222222222222YE1Y23YQ1Z3222D123dB1dB1dB1a51a51a5",
   "1a51a51a51a51a51a51a51a51a51a51a51a51a51X21X21X21X21X21X21X21X21X21X21X21X21X21X21X21X21X21X",
   "21X21X21X21X21X21X21X21X21X21X21X21X21X21X2WI222222222222222222222222222222222A2222222222222",
   "22222222222222222222222222222222222222222U12222222222222322222222222222222222222222222222222",
   "2222222222222222222222222222222222222222222222222222222222223Y31Y31Y31Y31Y31Y31Y31Y31Y31Y31Y",
   "31Y31Y31Y31Y31Y31Y31Y31Y31Y31Y31Y31Y31Y31Y31Y31Y31Y31Y31Y31Y31Y31Y31Y31Y31Y31Y31Y3YV7kYK1kYK",
   "1kYK1kYK1kYK1kYK1kYK1kYK1kYK1kYK1kYK1kYK1kYK1kYK1kYK1kYK1kYK1kYK1kYK1kYK1kYK1kYK1kYK1kYK1kYK",
   "1kYK1kYK1kYK1kYK1kYK1kYK1kYK1kYK1kYK1kYK1kYK1kYK1kYK2kYK6kYKv5F1F1F1F1F1FXd9hyC1hyA1hxN1hxJ1",
   "hxJ1hxL1hx71hvL1Xgh9127bd11bd11bd11bd11bd11bd11bd11bd11bd11bd11bd11bd11bd11bd11bd11bd11bd11b",
   "d11bd11bd11bd11bd11bd11bd11bd11bd11bd11bd11bd11bd11bd11bd11bd11bd11bd11bd11bd11bd11bd11bd11b",
   "d11bd11bd13bd11bd11bd1fB22222222222222222222222222222222222222222222222222222222222222222222",
   "2222222222222222222222222222222222222222222222222222222222222222222222222222222227YM3kv82222",
   "22222222222222222222222222222222222222222222222222222222222222222222222222222222222222222222",
   "AF1F1F1F1F1F1F1F9F1F1F1F1F1FBF1F1F1F1F1F1F1F9F1F1F1F1F1F1F1F9F1F1F1F1F1FCF2F2F2F9F1F1F1F1F1F",
   "1F1FPF1F1F1F1F1F1F1F9F1F1F1F1F1F1F1F9F1F1F1F1F1F1F1F9F1F1ZN1ZN1H2jxNAaG1aG1aG1aG1H7kWN5F1F1b",
   "D1bD8kVM5F1F1c61c61DCd71d71d31d31HeJkoT4miP1mb07WPWFW11W11W11W11W11W11W11W11W11W11W11W11W11W",
   "11W11W1K2vDWL1WL1WL1WL1WL1WL1WL1WL1WL1WL1WL1WL1WL1WL1WL1WL1WL1WL1WL1WL1WL1WL1WL1WL1WL1WLWxCY",
   "31Y31Y31Y31Y31Y31Y31Y31Y31Y31Y31Y31Y31Y31Y31Y31Y31Y31Y31Y31Y31Y31Y31Y31Y31Y31Y31Y31Y31Y31Y31",
   "Y31Y31Y31Y31Y31Y31Y31Y31Y31Y31Y31Y31Y31Y31Y31Y31Y3WI22rg21cy11rf13222222riE1rgE1riK1riI22329",
   "rkM1rkM1222222222222222222222222222222222222222222222222222222222222222222222222222222222222",
   "222222222222222922252WWeN222222222222222222222222222222222222222222222K222222222222222222222",
   "222222ZC222222222222242222222222222222222222222222222222222222222222222222222222222B2222XglE",
   "1222222222522XuzM3222422222222222222222222XvWG1XvX71XvWU1XvWA1XvWG2Xuy91XuzQ1XuyF1WxR1222222",
   "2222222222Y21XvWE1XgoP12222XvYO12426222222XvmQP2xNXnwA1XnwA1XnwA1XnwA1XnwA1XnwA1XnwA1XnwA1Xn",
   "wA1XnwA1XnwA1XnwA1XnwA1XnwA1XnwA1XnwA1XnwA1XnwA1XnwA1XnwA1XnwA1XnwA1XnwA1XnwA1XnwA1XnwA1XnwA",
   "1XnwA1XnwA1XnwA1XnwA1XnwA1XnwA1XnwA1XnwA1XnwA1XnwA1XnwA1XnwA1XnwA1XnwA1XnwA1XnwA1XnwA1XnwA1X",
   "nwA1XnwA1XnwA1XnwA1XnwA1XnwA1XnwA1XnwA1XnwA1XnwA1XnwA1XnwA1XnwA1XnwA1XnwA1XnwA1XnwA1XnwA1Xnw",
   "A1XnwA1XnwA1XnwA1XnwA1XnwA1XnwA1XnwA1XnwA1XnwA1XnwA1XnwA1XnwA1XnwA1XnwA1XnwA1XnwAqYK2WXTX21X",
   "21X21X21X21X21X21X21X21X21X21X21X21X21X21X21X21X21X21X21X21X21X21X21X21X2WdDXI1XI1XI1XI1XI1X",
   "I1XI1XI1XI1XI1XI1XI1XI1XI1XI1XI1XI1XI1XI1XI1XI1XI1XI1XI1XI1XI1XI1XI1XI1XI1XI1XI1XI1XI1XI1XI1",
   "XI1XI1XI1XIZDXI1XI1XI1XI1XI1XI1XI1XI1XI1XI1XI1XI1XI1XI1XI1XI1XI1XI1XI1XI1XI1XI1XI1XI1XI1XI1X",
   "I1XI1XI1XI1XI1XI1XI1XI1XI1XIa2XG1XG1XG1XG1XG1XG1XG1XG1XG1XG1XG2XG1XG1XG1XG1XG1XG1XG1XG1XG1XG",
   "1XG1XG1XG1XG1XG2XG1XG1XG1XG1XG1XG1XG2XG1XGWv4Z41Z41Z41Z41Z41Z41Z41Z41Z41Z41Z41Z41Z41Z41Z41Z4",
   "1Z41Z41Z41Z41Z41Z41Z41Z41Z41Z41Z41Z41Z41Z41Z41Z41Z41Z41Z41Z41Z41Z41Z41Z41Z41Z41Z41Z41Z41Z41Z",
   "41Z41Z41Z41Z4a3X21X21X21X21X21X21X21X21X21X21X21X21X21X21X21X21X21X21X21X21X21X2XzNX21X21X21",
   "X21X21X21X21X21X21X21X21X21X21X21X21X21X21X21X21X21X21X21X21X21X21X21X21X21X21X21X21X2rt3X21",
   "X21X21X21X21X21X21X21X21X21X21X21X21X21X21X21X21X21X21X21X21X21X21X21X21X21X21X21X21X21X21X2",
   "WWpLX61X61X61X61X61X61X61X61X61X61X61X61X61X61X61X61X61X61X61X61X61X61X61X61X61X61X61X61X61X",
   "61X61X61X61X6"]

def readFoldings : Nat → List Nat → List (Nat × Nat)
  | base, gap :: twice :: rest =>
    let c := base + gap
    (c, if twice % 2 == 0 then c + twice / 2 else c - (twice + 1) / 2) :: readFoldings c rest
  | _, _ => []

def foldings : List (Nat × Nat) := readFoldings 0 (CharSet.numbers foldingCode)

def CharSet.foldCase (s : CharSet) : CharSet :=
  let targets := s.union (.ofPoints ((foldings.filter fun p => s.containsPoint p.1).map Prod.snd))
  targets.union (.ofPoints ((foldings.filter fun p => targets.containsPoint p.2).map Prod.fst))

end LocatorPath.Unicode
