/-! Addresses of pages, and addresses taken relative to the present one. -/
namespace LocatorPath

/-- An address in its parts. One without a slash after its scheme is opaque: nothing can be taken
relative to it but a fragment. -/
structure Address where
  scheme : String
  host : Option String
  path : List Char
  query : Option (List Char)
  fragment : Option (List Char)
  isOpaque : Bool
  deriving DecidableEq, Repr

inductive AddressError where
  | relativeToOpaque
  | emptyHost
  | noScheme
  deriving DecidableEq, Repr

def AddressError.message : AddressError → String
  | relativeToOpaque => "relative URL with a cannot-be-a-base base"
  | emptyHost => "empty host"
  | noScheme => "relative URL without a base"

namespace Address

def isSpecial (scheme : String) : Bool := ["http", "https", "ws", "wss", "ftp"].contains scheme

def isSchemeChar (c : Char) : Bool := c.isAlphanum || c == '+' || c == '-' || c == '.'

def hexUpper (n : Nat) : Char := "0123456789ABCDEF".toList.getD n '0'

def escape (special : List Char) (cs : List Char) : List Char :=
  cs.flatMap fun c =>
    if c.toNat ≤ 32 || 127 ≤ c.toNat || special.contains c then
      (String.singleton c).toUTF8.toList.flatMap fun octet =>
        ['%', hexUpper (octet.toNat / 16), hexUpper (octet.toNat % 16)]
    else [c]

def escapePath : List Char → List Char := escape "\"#<>?\x60\x7b\x7d".toList

def escapeQuery : List Char → List Char := escape "\"#<>'".toList

def escapeFragment : List Char → List Char := escape "\"<>\x60".toList

def cutAt (p : Char → Bool) (cs : List Char) : List Char × Option (List Char) :=
  match cs.dropWhile (!p ·) with
  | [] => (cs, none)
  | _ :: rest => (cs.takeWhile (!p ·), some rest)

def workOff : (done : List (List Char)) → List (List Char) → List (List Char)
  | done, [] => done.reverse
  | done, s :: rest =>
    if s == ['.'] then workOff (if rest.isEmpty then [] :: done else done) rest
    else if s == ['.', '.'] then
      workOff (if rest.isEmpty then [] :: done.tail else done.tail) rest
    else workOff (s :: done) rest

def segments : List Char → List (List Char)
  | [] => [[]]
  | c :: rest =>
    match segments rest with
    | s :: others => if c == '/' then [] :: s :: others else (c :: s) :: others
    | [] => [[c]]

def normalize (path : List Char) : List Char :=
  (workOff [] (segments path.tail)).flatMap fun s => '/' :: s

def impliedEnding (scheme : String) : List Char :=
  match scheme with
  | "http" | "ws" => [':', '8', '0']
  | "https" | "wss" => [':', '4', '4', '3']
  | "ftp" => [':', '2', '1']
  | _ => []

def hostText (scheme : String) (cs : List Char) : String :=
  let cs := cs.map Char.toLower
  let ending := impliedEnding scheme
  String.ofList (if ending.isSuffixOf cs then cs.take (cs.length - ending.length) else cs)

def tailParts (cs : List Char) : List Char × Option (List Char) × Option (List Char) :=
  let (front, fragment) := cutAt (· == '#') cs
  let (path, query) := cutAt (· == '?') front
  (path, query.map escapeQuery, fragment.map escapeFragment)

def withHost (scheme : String) (cs : List Char) : Except AddressError Address :=
  let (front, query, fragment) := tailParts cs
  let host := front.takeWhile (· != '/')
  let path := front.dropWhile (· != '/')
  if host.isEmpty && isSpecial scheme then .error .emptyHost
  else
    .ok ⟨scheme, some (hostText scheme host),
      if path.isEmpty && !isSpecial scheme then [] else normalize (escapePath ('/' :: path.tail)),
      query, fragment, false⟩

/-- Blanks around an address and line breaks inside of it do not count. In addresses of the web a
backslash is a slash. -/
def clean (cs : List Char) : List Char :=
  let blank (c : Char) := c.toNat ≤ 32
  let cs := ((cs.dropWhile blank).reverse.dropWhile blank).reverse
  cs.filter fun c => c != '\n' && c != '\r' && c != '\t'

def scheme? (cs : List Char) : Option (String × List Char) :=
  let name := cs.takeWhile isSchemeChar
  match name, cs.dropWhile isSchemeChar with
  | c :: _, ':' :: rest =>
    if c.isAlpha then some (String.ofList (name.map Char.toLower), rest) else none
  | _, _ => none

def read (text : String) : Except AddressError Address :=
  match scheme? (clean text.toList) with
  | none => .error .noScheme
  | some (scheme, rest) =>
    let rest := if isSpecial scheme then rest.map fun c => if c == '\\' then '/' else c else rest
    if isSpecial scheme then withHost scheme (rest.dropWhile (· == '/'))
    else
      match rest with
      | '/' :: '/' :: rest => withHost scheme rest
      | '/' :: _ =>
        let (path, query, fragment) := tailParts rest
        .ok ⟨scheme, none, normalize (escapePath path), query, fragment, false⟩
      | _ =>
        let (path, query, fragment) := tailParts rest
        .ok ⟨scheme, none, path, query, fragment, true⟩

def directory (path : List Char) : List Char := (path.reverse.dropWhile (· != '/')).reverse

def join (base : Address) (text : String) : Except AddressError Address :=
  let cs := clean text.toList
  if (scheme? cs).isSome then read text
  else
    let cs := if isSpecial base.scheme then cs.map fun c => if c == '\\' then '/' else c else cs
    let (path, query, fragment) := tailParts cs
    if base.isOpaque then
      match cs with
      | '#' :: _ => .ok {base with fragment}
      | _ => .error .relativeToOpaque
    else
      match cs with
      | '/' :: '/' :: rest => withHost base.scheme rest
      | '/' :: _ => .ok {base with path := normalize (escapePath path), query, fragment}
      | _ =>
        if path.isEmpty then
          .ok {base with query := query <|> base.query, fragment}
        else
          .ok {base with
            path := normalize ((if (directory base.path).isEmpty then ['/'] else
              directory base.path) ++ escapePath path)
            query, fragment}

def written (a : Address) : String :=
  let host := a.host.elim "" ("//" ++ ·)
  let part (sign : Char) : Option (List Char) → List Char
    | some cs => sign :: cs
    | none => []
  a.scheme ++ ":" ++ host ++ String.ofList (a.path ++ part '?' a.query ++ part '#' a.fragment)

end Address

end LocatorPath
