import LocatorPath.Octets
import LocatorPath.WebDriver.Address
import LocatorPath.WebDriver.Exchange

/-! The octets of an exchange with a server, one connection for each query. -/
namespace LocatorPath.Http
open Exchange (Query Answer)

structure Endpoint where
  host : String
  number : UInt16
  path : String
  deriving DecidableEq, Repr

def splitHost (text : String) : Option (String × UInt16) :=
  let backwards := text.toList.reverse
  match backwards.span Char.isDigit with
  | (digits@(_ :: _), ':' :: host) => do
    let n ← (String.ofList digits.reverse).toNat?
    if n < UInt16.size then some (String.ofList host.reverse, n.toUInt16) else none
  | _ => some (text, 80)

def endpoint? (url : String) : Option Endpoint :=
  match Address.read url with
  | .error _ => none
  | .ok a => do
    if a.scheme == "http" then
      let (host, number) ← a.host >>= splitHost
      some ⟨host, number, String.ofList (Address.directory a.path).dropLast⟩
    else none

def written (e : Endpoint) (q : Query) : ByteArray :=
  let body := (q.body.elim "" JsonValue.compact).toUTF8
  let head :=
    q.method.name ++ " " ++ e.path ++ q.path ++ " HTTP/1.1\r\n" ++
    "Host: " ++ e.host ++ ":" ++ e.number.toNat.repr ++ "\r\n" ++
    "Accept: application/json\r\nConnection: close\r\n" ++
    "Content-Type: application/json; charset=utf-8\r\n" ++
    "Content-Length: " ++ body.size.repr ++ "\r\n\r\n"
  head.toUTF8 ++ body

def asciiText (os : Octets) : String := String.ofList (os.map fun o => Char.ofNat o.toNat)

def inFront (o : UInt8) : List Octets → List Octets
  | [] => [[o]]
  | line :: lines => (o :: line) :: lines

def headLines : Octets → Option (List Octets × Octets)
  | [] => none
  | 13 :: 10 :: 13 :: 10 :: body => some ([[]], body)
  | 13 :: 10 :: rest => (headLines rest).map fun (lines, body) => ([] :: lines, body)
  | o :: rest => (headLines rest).map fun (lines, body) => (inFront o lines, body)

def status? (line : String) : Option Nat :=
  match line.splitOn " " with
  | _ :: status :: _ => status.toNat?
  | _ => none

def isChunked (lines : List String) : Bool :=
  lines.any fun line =>
    let line := line.toList.map Char.toLower
    "transfer-encoding:".toList.isPrefixOf line && "chunked".toList.isSuffixOf line

def pieceSize? (os : Octets) : Option (Nat × Octets) := do
  let line := os.takeWhile (· != 10)
  let size ← JsonValue.hexNumber? ((asciiText line).toList.takeWhile Char.isAlphanum)
  some (size, os.drop (line.length + 1))

/-- Puts the pieces of a body together, at most as many as there is fuel. A piece of no octets is
the last one. -/
def joinPieces : (fuel : Nat) → Octets → Option Octets
  | 0, _ => none
  | fuel + 1, os => do
    let (size, rest) ← pieceSize? os
    if size = 0 then some []
    else (joinPieces fuel (rest.drop (size + 2))).map (rest.take size ++ ·)

def answer? (os : Octets) : Option Answer := do
  let (lines, body) ← headLines os
  let lines := lines.map asciiText
  let status ← lines.head? >>= status?
  let body ← if isChunked lines then joinPieces (body.length + 1) body else some body
  let text ← body.text?
  some ⟨status, text⟩

end LocatorPath.Http
