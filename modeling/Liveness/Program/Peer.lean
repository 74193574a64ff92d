import Liveness.Net.Connection
import Liveness.Probe
import Std.Async.DNS
import Std.Async.TCP

/-! Peers as they are met. A probe is rehearsed to learn whom it dials and what it sends; both are
then done, and what comes back is the peer that the probe runs with. No TLS is spoken here, so a
handshake fails. -/
namespace Liveness.Program
open Net Std.Async

/-- A fault as the system reports it. Its numbers are negative where the event loop gives them. -/
def faultOf : IO.Error → Fault
  | .unexpectedEof => .ofClass .unexpectedEof
  | .userError text => .stated text
  | .alreadyExists _ n _ | .otherError n _ | .resourceBusy n _ | .resourceVanished n _
  | .unsupportedOperation n _ | .hardwareFault n _ | .unsatisfiedConstraints n _
  | .illegalOperation n _ | .protocolError n _ | .timeExpired n _ | .interrupted _ n _
  | .noFileOrDirectory _ n _ | .invalidArgument _ n _ | .permissionDenied _ n _
  | .resourceExhausted _ n _ | .inappropriateType _ n _ | .noSuchThing _ n _ =>
    .system (if n.toNat < 0x80000000 then n.toNat else 0x100000000 - n.toNat)

def mutePeer : Peer :=
  ⟨.accepts, .fails "no TLS is available", .unbounded, false, [], .endOfStream, .completes⟩

/-- The address that a probe dials, and the bytes that it sends there before it waits. -/
def rehearse (request : ProbeRequest) (transport : Transport) (address : Option SocketAddress) :
    Option (SocketAddress × List UInt8) :=
  let wire := (Probe.run request transport ⟨fun _ _ => address, fun _ => mutePeer⟩).wire
  let sent := wire.flatMap fun
    | .sent bytes => bytes
    | _ => []
  wire.findSome? fun
    | .dialled peer => some (peer, sent)
    | _ => none

/-- What a task gives, or nothing if it is not done at the deadline. -/
partial def within? {α : Type} (deadline : Nat) (task : AsyncTask α) :
    IO (Option (Except IO.Error α)) := do
  if ← IO.hasFinished task then return some (← task.block.toBaseIO)
  if deadline ≤ (← IO.monoNanosNow) then return none
  IO.sleep 2
  within? deadline task

/-- The chunks that a peer sends, up to the end of a line, and what follows them. -/
partial def listen (client : TCP.Socket.Client) (deadline : Nat) (chunks : List (List UInt8)) :
    IO (List (List UInt8) × Ending) := do
  if (gather maxLineLength [] chunks).complete then return (chunks, .endOfStream)
  match ← within? deadline (← (client.recv? 1024).toIO) with
  | none => return (chunks, .silence)
  | some (.error e) => return (chunks, .fault (faultOf e))
  | some (.ok none) => return (chunks, .endOfStream)
  | some (.ok (some bytes)) => listen client deadline (chunks ++ [bytes.toList])

def wireAddress (a : SocketAddress) : Std.Net.SocketAddress :=
  match a.ip with
  | .v4 word =>
    .v4 ⟨.ofParts (word >>> 24).toUInt8 (word >>> 16).toUInt8 (word >>> 8).toUInt8 word.toUInt8,
      a.port⟩
  | .v6 groups => .v6 ⟨⟨groups⟩, a.port⟩

/-- Dials a peer, sends a head to it, and listens for a line. Each of them may take `limit`. -/
def meet (address : SocketAddress) (head : List UInt8) (limit : Duration) : IO Peer := do
  let deadline : IO Nat := return (← IO.monoNanosNow) + limit.nanos
  let client ← TCP.Socket.Client.mk
  match ← within? (← deadline) (← (client.connect (wireAddress address)).toIO) with
  | none => return { mutePeer with accepting := .stalls }
  | some (.error e) => return { mutePeer with accepting := .fails (faultOf e) }
  | some (.ok ()) =>
    if head.isEmpty then return mutePeer
    match ← within? (← deadline) (← (client.send ⟨head.toArray⟩).toIO) with
    | none => return { mutePeer with intake := .stallsAfter 0 }
    | some (.error e) => return { mutePeer with intake := .failsAfter 0 (faultOf e) }
    | some (.ok ()) =>
      let (chunks, ending) ← listen client (← deadline) []
      let _ ← within? (← deadline) (← client.shutdown.toIO)
      return { mutePeer with chunks, ending }

def resolve (host : String) (port : UInt16) : IO (Option SocketAddress) := do
  match lookupNumeric host port with
  | some address => return some address
  | none =>
    match ← (DNS.getAddrInfo host "").block.toBaseIO with
    | .error _ => return none
    | .ok found =>
      return found[0]?.map fun
        | .v4 ip =>
          ⟨.v4 (wordOfBytes (ip.octets.toList.map UInt8.toNat)), port, 0⟩
        | .v6 ip => ⟨.v6 ip.segments, port, 0⟩

def network (request : ProbeRequest) (transport : Transport) : IO Network := do
  match request.endpoint with
  | .error _ => return ⟨lookupNumeric, fun _ => mutePeer⟩
  | .ok target =>
    let address ← resolve target.host target.port
    match rehearse request transport address with
    | none => return ⟨fun _ _ => address, fun _ => mutePeer⟩
    | some (dialled, head) =>
      let peer ← meet dialled head transport.timeout
      return ⟨fun _ _ => address, fun _ => peer⟩

end Liveness.Program
