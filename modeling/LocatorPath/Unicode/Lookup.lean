import LocatorPath.Unicode.Age
import LocatorPath.Unicode.Break
import LocatorPath.Unicode.Category
import LocatorPath.Unicode.Property
import LocatorPath.Unicode.Script

/-! Sets of characters by the names of properties and of their values. -/
namespace LocatorPath.Unicode

/-- The form in which names are compared: without case, spaces, underscores and hyphens, and
without a leading `is`. The name `isc` stands for itself. -/
def normalizeName (name : List Char) : String :=
  let plain (cs : List Char) :=
    (cs.filter fun c => c.toNat < 128 && c != ' ' && c != '_' && c != '-').map Char.toLower
  match name with
  | i :: s :: rest =>
    if i.toLower == 'i' && s.toLower == 's' then
      if plain rest == ['c'] then "isc" else String.ofList (plain rest)
    else String.ofList (plain name)
  | _ => String.ofList (plain name)

def categoryGroups : List (List String × List String) :=
  [(["l", "letter"], ["lu", "ll", "lt", "lm", "lo"]), (["lc", "casedletter"], ["lu", "ll", "lt"]),
   (["m", "mark", "combiningmark"], ["mn", "mc", "me"]), (["n", "number"], ["nd", "nl", "no"]),
   (["p", "punctuation", "punct"], ["pc", "pd", "ps", "pe", "pi", "pf", "po"]),
   (["s", "symbol"], ["sm", "sc", "sk", "so"]), (["z", "separator"], ["zs", "zl", "zp"]),
   (["c", "other"], ["cc", "cf", "co", "cn"])]

def unionOf (table : List Entry) (names : List String) : CharSet :=
  names.foldl (fun s name => s.union ((findSet? table name).getD .empty)) .empty

def category? (name : String) : Option CharSet :=
  match name with
  | "any" => some .all
  | "ascii" => some (.ofRange 0 0x7F)
  | "assigned" => (findSet? categories "cn").map CharSet.complement
  | _ =>
    match categoryGroups.find? fun g => g.1.contains name with
    | some group => some (unionOf categories group.2)
    | none => findSet? categories name

/-- What a name without a value stands for: a property, else a category, else a script. Three
names are categories although properties bear them too. -/
def named? (name : List Char) : Option CharSet :=
  let name := normalizeName name
  let property := if name == "cf" || name == "sc" || name == "lc" then none
    else findSet? properties name
  property <|> category? name <|> findSet? scripts name

def presentIn? (version : String) : Option CharSet :=
  match ages.dropWhile fun e => !e.names.contains version with
  | [] => none
  | later => some ((ages.take (ages.length + 1 - later.length)).foldl
      (fun s e => s.union e.set) .empty)

def valued? (property value : List Char) : Option CharSet :=
  let value := normalizeName value
  match normalizeName property with
  | "gc" | "generalcategory" => category? value
  | "sc" | "script" => findSet? scripts value
  | "scx" | "scriptextensions" => findSet? scriptExtensions value
  | "age" => presentIn? value
  | "gcb" | "graphemeclusterbreak" => findSet? graphemeBreaks value
  | "wb" | "wordbreak" => findSet? wordBreaks value
  | "sb" | "sentencebreak" => findSet? sentenceBreaks value
  | _ => none

def decimalDigits : CharSet := unionOf categories ["nd"]

def whiteSpace : CharSet := (findSet? properties "whitespace").getD .empty

def wordCharacters : CharSet :=
  ((unionOf properties ["alphabetic", "joincontrol"]).union
    (unionOf categories ["mn", "mc", "me", "nd", "pc"]))

/-! Letters and digits of version 17.0 of the Unicode standard. The tables of properties and
categories hold version 16.0, so what that version lacks is listed here. -/

def newerLetters : CharSet := .ofCode
  ["XdL0WVB0Z30WfdG12010S0uxHPWiN2WJ1YeA7nQWCqkUO2Oe74bh77WfILY4YLspAU1L81WtjH5bc3Brp0ZjJ"]

def newerDigits : CharSet := .ofCode ["XjZO9"]

def letters : CharSet := (unionOf properties ["alphabetic"]).union newerLetters

def alphanumerics : CharSet :=
  (letters.union (unionOf categories ["nd", "nl", "no"])).union newerDigits

end LocatorPath.Unicode
