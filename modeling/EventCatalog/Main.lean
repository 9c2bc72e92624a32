/-
# EventCatalog.Main — the program

The outer layer: it reads arguments, files and the environment, opens connections, and
leaves every decision to `CommandLine` and `Service`.
-/
import EventCatalog.CommandLine.Program
import EventCatalog.Web.Service
import EventCatalog.Web.Wire
import Std.Async.DNS
import Std.Async.TCP
import Std.Internal.UV.System

set_option autoImplicit false

namespace EventCatalog.Main

open Std.Async

/-- How many octets are read at a time. -/
def blockSize : UInt64 := 65536

/-- Reads from a connection until it ends or `enough` has come. -/
partial def receive (client : TCP.Socket.Client) (enough : ByteArray → Bool)
    (octets : ByteArray) : Async ByteArray := do
  if enough octets then return octets
  match ← client.recv? blockSize with
  | none => return octets
  | some block => receive client enough (octets ++ block)

/-- One exchange with the store. -/
def exchange (origin : Wire.Origin) (request : StoreRequest) : Async (Option StoreResponse) := do
  let addresses ← DNS.getAddrInfo origin.host ""
  let v4 := addresses.toList.findSome? fun address => match address with
    | .v4 v4 => some v4
    | .v6 _ => none
  match v4 with
  | none => return none
  | some address =>
    let client ← TCP.Socket.Client.mk
    client.connect (.v4 ⟨address, origin.port.toUInt16⟩)
    client.send (Wire.writeRequest origin request).toUTF8
    let octets ← receive client (fun _ => false) ByteArray.empty
    return Wire.readResponse octets.toList

/-- The link to the store at an address; whatever goes wrong loses the request. -/
def link (address : String) : Link Async := fun request => do
  match Wire.Origin.read? address with
  | none => return none
  | some origin =>
    try exchange origin request
    catch _ => return none

/-- Answers one client. -/
def serveClient (settings : Settings) (client : TCP.Socket.Client) : Async Unit := do
  let complete (octets : ByteArray) : Bool := (Wire.readAsk octets.toList).isSome
  let octets ← receive client complete ByteArray.empty
  if let some ask := Wire.readAsk octets.toList then
    let reply ← Service.answer (link settings.address) settings ask
    client.send (Wire.writeReply reply).toUTF8
  client.shutdown

/-- Answers clients one after the other. -/
partial def serveFrom (settings : Settings) (server : TCP.Socket.Server) : IO Unit := do
  let client ← server.accept.block
  try (serveClient settings client).block
  catch _ => pure ()
  serveFrom settings server

/-- Listens on a port and answers clients. -/
def serve (settings : Settings) (port : Nat) : IO CommandLine.Exit := do
  try
    let server ← TCP.Socket.Server.mk
    server.bind (.v4 ⟨.ofParts 0 0 0 0, port.toUInt16⟩)
    server.listen 128
    serveFrom settings server
    return .success
  catch _ => return .failure "API server failed"

/-- The content of a file, if it can be read. -/
def readOctets? (file : String) : IO (Option ByteArray) := do
  try return some (← IO.FS.readBinFile file)
  catch _ => return none

/-- Does what a plan asks for. -/
def carryOut (plan : CommandLine.Plan) : IO CommandLine.Exit := do
  let settings := plan.settings
  match plan.command with
  | .serve port => serve settings (CommandLine.servicePort settings port)
  | .init => (CommandLine.runInit (link settings.address) settings).block
  | .load file =>
    let octets ← readOctets? file
    (CommandLine.runLoad (link settings.address) settings file (octets.map ByteArray.toList)).block

end EventCatalog.Main

open EventCatalog in
/-- Runs the program. -/
def main (args : List String) : IO UInt32 := do
  let env := (← Std.Internal.UV.System.osEnviron).toList
  let written := (← Main.readOctets? ".env").bind String.fromUTF8?
  let exit ← match CommandLine.plan args env written with
    | .error exit =>
      if exit.message.isNone then IO.eprintln CommandLine.usage
      pure exit
    | .ok plan =>
      if plan.verbose then IO.eprintln plan.settings.describe
      Main.carryOut plan
  match exit.message with
  | some message => IO.eprintln ("Error: " ++ message)
  | none => pure ()
  return exit.status.toUInt32
