import Std.Async.DNS
import Std.Async.TCP
import Std.Async.Timer
import Std.Sync.Semaphore
import StakeSnapshot.CommandLine.Invocation
import StakeSnapshot.Http.Message
import StakeSnapshot.Session

/-!
# The program

Runs the task of an invocation over the network and prints its report. What a task asks at once is
sent at once, as far as the permits go; a request that takes too long counts as not answered.
Connections are not encrypted.
-/

namespace StakeSnapshot

open Http CommandLine

/-- What tasks run on: the session, the permits, and how many milliseconds a request to the beacon
chain may take. -/
structure Network where
  session : IO.Ref Session
  permits : Std.Semaphore
  beaconTimeout : Nat

namespace Network

/-- The addresses of a host. -/
def addressesOf (host : String) : Std.Async.Async (Array Std.Net.IPAddr) := do
  match Host.ofText? host.toList with
  | some (.short n) =>
    match Bytes.ofNat 4 n with
    | [a, b, c, d] => return #[.v4 (.ofParts a b c d)]
    | _ => return #[]
  | some (.long [a, b, c, d, e, f, g, h]) =>
    return #[.v6 (.ofParts (.ofNat a) (.ofNat b) (.ofNat c) (.ofNat d) (.ofNat e) (.ofNat f)
      (.ofNat g) (.ofNat h))]
  | _ => Std.Async.DNS.getAddrInfo host ""

def socketAddress (port : Nat) : Std.Net.IPAddr → Std.Net.SocketAddress
  | .v4 addr => .v4 ⟨addr, .ofNat port⟩
  | .v6 addr => .v6 ⟨addr, .ofNat port⟩

/-- All bytes up to the end of a connection. -/
partial def receiveAll (socket : Std.Async.TCP.Socket.Client) (received : ByteArray) :
    Std.Async.Async ByteArray := do
  match ← socket.recv? 65536 with
  | none => return received
  | some data => receiveAll socket (received ++ data)

/-- The bytes with which the host of a URL answers. -/
def converse (url : Url) (message : Bytes) : Std.Async.Async Bytes := do
  let authority := url.authority.getD ⟨"", "", none, none⟩
  let port := authority.port.getD ((Url.usualPort? url.scheme).getD 80)
  for address in ← addressesOf (authority.host.getD "") do
    try
      let socket ← Std.Async.TCP.Socket.Client.mk
      socket.connect (socketAddress port address)
      socket.send ⟨message.toArray⟩
      return (← receiveAll socket .empty).toList
    catch _ => continue
  throw (.userError "no connection")

/-- The reply to a request, unless it does not come within a number of milliseconds. -/
def exchange (url : Url) (message : Bytes) (limit : Option Nat) : IO (Option Reply) := do
  let answer : Std.Async.Async (Option Reply) := do
    try return Message.toReply? (← converse url message)
    catch _ => return none
  match limit with
  | none => answer.block
  | some milliseconds =>
    let silence : Std.Async.Async (Option Reply) := do
      Std.Async.sleep (.ofNat milliseconds)
      return none
    (Std.Async.Async.race answer silence).block

/-- How many milliseconds are left until a time. -/
def timeLeft (deadline : Option Nat) : IO (Option Nat) := do
  let now ← IO.monoMsNow
  return deadline.map (· - now)

/-- The earlier of two limits. -/
def earlier (a b : Option Nat) : Option Nat :=
  match a, b with
  | some a, some b => some (min a b)
  | some a, none => some a
  | none, b => b

def sendRequest (network : Network) (deadline : Option Nat) (request : Http.Request) :
    IO (Option Reply) := do
  let left ← timeLeft deadline
  match request with
  | .get url =>
    if url.scheme = "https" then return none
    exchange url (Message.ofRequest request) (earlier left (some network.beaconTimeout))
  | .post url _ =>
    if url.scheme = "https" then return none
    exchange url (Message.ofRequest request) left

/-- Runs a task. -/
def perform (network : Network) : {α : Type} → Option Nat → Task Exchange α → IO (Outcome α)
  | _, _, .done r => pure r
  | _, deadline, .ask (.web (.send request)) => return .ok (← network.sendRequest deadline request)
  | _, _, .ask (.session question) =>
    return .ok (← network.session.modifyGet fun s => s.answer question)
  | _, deadline, .andThen t next => do
    network.perform deadline (next (← network.perform deadline t))
  | _, deadline, .both t u => do
    let right ← IO.asTask (network.perform deadline u) .dedicated
    match ← network.perform deadline t with
    | .error e => return .error e
    | .ok a => return (← IO.ofExcept right.get).map fun b => (a, b)
  | _, deadline, .permitted t => do
    let acquired ← network.permits.acquire
    let _ ← IO.wait acquired.result!
    let r ← network.perform deadline t
    network.permits.release
    return r
  | _, deadline, .within seconds late t => do
    let limit := (← IO.monoMsNow) + 1000 * seconds
    let r ← network.perform (earlier deadline (some limit)) t
    if limit ≤ (← IO.monoMsNow) then return .error (.error late) else return r

end Network

/-- Prints a report. -/
def print (r : Report) : IO UInt32 := do
  IO.print r.output
  IO.eprint r.errorOutput
  return r.exitCode.toUInt32

/-- The report of an invocation. -/
def run (i : Invocation) : IO Report := do
  match i.settings.permits with
  | .error f => return i.report .zero (.error (.fault f))
  | .ok permits =>
    let session ← IO.mkRef (Session.new true)
    let network : Network :=
      ⟨session, ← Std.Semaphore.new permits.toNat, 1000 * i.beacon.timeoutSecs.toNat⟩
    let result ← network.perform none i.task
    return i.report ((← session.get).metrics.getD .zero) result

end StakeSnapshot

open StakeSnapshot CommandLine in
/-- The program. -/
def main (arguments : List String) : IO UInt32 := do
  let environment ← OptionSpec.all.filterMapM fun option => do
    return (← IO.getEnv option.variableName).map (option.variableName, ·)
  match Invocation.parse environment arguments with
  | .error e => print (Invocation.usageReport e)
  | .ok i => print (← run i)
