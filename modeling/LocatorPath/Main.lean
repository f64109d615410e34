import LocatorPath.CommandLine.Run
import LocatorPath.WebDriver.Http
import Std.Async.DNS
import Std.Async.TCP

/-! The program on a machine with files and a network. -/
namespace LocatorPath
open Std.Async

def isMissing : IO.Error → Bool
  | .noFileOrDirectory .. => true
  | _ => false

def machineFiles (home : Option String) : Files IO where
  read path := do
    try
      match String.fromUTF8? (← IO.FS.readBinFile path) with
      | some text => return .ok text
      | none => return .error .notText
    catch _ => return .error .unreadable
  isPresent path := do
    try
      let _ ← IO.FS.readBinFile path
      return true
    catch e => return !isMissing e
  home

partial def receiveAll (client : TCP.Socket.Client) (received : ByteArray) : Async ByteArray := do
  match ← client.recv? 65536 with
  | some piece => receiveAll client (received ++ piece)
  | none => return received

def socketAddress (number : UInt16) : Std.Net.IPAddr → Std.Net.SocketAddress
  | .v4 addr => .v4 ⟨addr, number⟩
  | .v6 addr => .v6 ⟨addr, number⟩

def ask (e : Http.Endpoint) (q : Exchange.Query) : IO (Option Exchange.Answer) := do
  let addresses ← Async.block (DNS.getAddrInfo e.host e.number.toNat.repr)
  let mut answered := none
  for address in addresses do
    if answered.isNone then
      try
        let client ← TCP.Socket.Client.mk
        Async.block (client.connect (socketAddress e.number address))
        Async.block (client.send (Http.written e q))
        answered := some (← Async.block (receiveAll client .empty))
      catch _ => pure ()
  return answered >>= fun os => Http.answer? os.toList

def machineWire (url : String) : IO (Wire IO String) := do
  let session ← IO.mkRef ""
  return fun c => ExceptT.mk do
    match Http.endpoint? url with
    | none => return .error .unreachable
    | some e =>
      let answered ← try ask e (Exchange.query (← session.get) c) catch _ => pure none
      match answered with
      | none => return .error .unreachable
      | some a =>
        match Exchange.value a with
        | .ok v => (Exchange.session? v).forM session.set
        | .error _ => pure ()
        return Exchange.reply a c

def machine (home : Option String) : Host IO String where
  files := machineFiles home
  server := machineWire
  emit
    | .complaint message => IO.eprintln (Output.complaint message).render
    | o => IO.println o.render

end LocatorPath

def main (arguments : List String) : IO UInt32 := do
  let home ← IO.getEnv "HOME"
  return ((← (LocatorPath.machine home).run arguments).code).toUInt32
