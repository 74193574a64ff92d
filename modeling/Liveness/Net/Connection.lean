import Liveness.Net.Host
import Liveness.Probe.Error

/-! One connection to a peer, over TCP alone or with TLS on top: opened for one probe, closed at its
end, every wait on the peer bounded. A peer is what it does at each stage, so all behaviours of a
network can be given as values. -/
namespace Liveness

/-- TLS trust policy. There is no certificate store to verify against, so TLS is refused unless
any certificate will do. -/
inductive TlsMode where
  | disabled
  | acceptAny
deriving DecidableEq, Repr

/-- How connections are made. The timeout bounds connect, handshake, write and read, each. -/
structure Transport where
  tls : TlsMode
  timeout : Duration
deriving DecidableEq, Repr

namespace Net

inductive Accepting where
  | accepts
  | fails (fault : Fault)
  | stalls
deriving DecidableEq, Repr

inductive Handshake where
  | completes
  | fails (reason : String)
  | stalls
deriving DecidableEq, Repr

/-- How much a peer takes in: everything, or a number of bytes before writes fail or stall. -/
inductive Intake where
  | unbounded
  | failsAfter (count : Nat) (fault : Fault)
  | stallsAfter (count : Nat)
deriving DecidableEq, Repr

/-- What follows the last bytes of a peer. -/
inductive Ending where
  | endOfStream
  | silence
  | fault (f : Fault)
deriving DecidableEq, Repr

inductive Leaving where
  | completes
  | fails (fault : Fault)
  | stalls
deriving DecidableEq, Repr

/-- What a peer does over one connection. One that awaits a head sends nothing before what it has
received ends in an empty line. -/
structure Peer where
  accepting : Accepting
  handshake : Handshake
  intake : Intake
  awaitsHead : Bool
  chunks : List (List UInt8)
  ending : Ending
  leaving : Leaving
deriving DecidableEq, Repr

inductive WireEvent where
  | dialled (peer : SocketAddress)
  | connected
  | secured
  | sent (bytes : List UInt8)
  | awaited
  /-- A wait has lasted the whole timeout in vain. -/
  | stalled
  | released
deriving DecidableEq, Repr

/-- The longest line that is read whole; anything longer is cut off. -/
def maxLineLength : Nat := 1024

/-- The bytes up to and with the first LF, at most `limit` of them, and the bytes behind; nothing
if both bounds lie beyond these bytes. -/
def takeLine? : Nat → List UInt8 → Option (List UInt8 × List UInt8)
  | 0, bytes => some ([], bytes)
  | _ + 1, [] => none
  | limit + 1, b :: bytes =>
    if b = 10 then some ([b], bytes)
    else (takeLine? limit bytes).map fun (line, behind) => (b :: line, behind)

structure Gathered where
  line : List UInt8
  complete : Bool
  buffer : List UInt8
  chunks : List (List UInt8)
deriving DecidableEq, Repr

/-- Reads a line out of the buffer and then out of the chunks to come. -/
def gather (limit : Nat) (buffer : List UInt8) : List (List UInt8) → Gathered
  | [] =>
    match takeLine? limit buffer with
    | some (line, behind) => ⟨line, true, behind, []⟩
    | none => ⟨buffer, false, [], []⟩
  | chunk :: chunks =>
    match takeLine? limit buffer with
    | some (line, behind) => ⟨line, true, behind, chunk :: chunks⟩
    | none =>
      let rest := gather (limit - buffer.length) chunk chunks
      { rest with line := buffer ++ rest.line }

/-- An open stream: the peer's script from here on, and what has been sent. -/
structure Stream where
  peer : Peer
  buffer : List UInt8
  sent : List UInt8
  headSeen : Bool
  broken : Bool
deriving DecidableEq, Repr

namespace Stream

def new (peer : Peer) : Stream := ⟨peer, [], [], false, false⟩

/-- The empty line that ends a request head. -/
def headEnd : List UInt8 := [13, 10, 13, 10]

def waiting (s : Stream) : Bool := s.peer.awaitsHead && !s.headSeen

def record (s : Stream) (bytes : List UInt8) : Stream :=
  let sent := s.sent ++ bytes
  { s with sent, headSeen := s.headSeen || headEnd.isSuffixOf sent }

end Stream

/-- A connection; without a stream it is closed. -/
structure Connection where
  address : SocketAddress
  secure : Bool
  timeout : Duration
  stream : Option Stream
deriving DecidableEq, Repr

structure Exchanged (α : Type) where
  result : Except ProbeError α
  connection : Connection
  wire : List WireEvent

structure Opened where
  result : Except ProbeError Connection
  wire : List WireEvent

namespace Connection

/-- What keeps a TLS session from being tried at all. -/
def tlsFault? (secure : Bool) (host : String) (transport : Transport) : Option TlsFault :=
  if !secure then none
  else match transport.tls with
    | .disabled => some .disabled
    | .acceptAny => if isServerName host then none else some (.serverName host)

/-- Connects, with TLS on top if asked for. A failed handshake releases the connection. -/
def «open» (address : SocketAddress) (secure : Bool) (host : String) (transport : Transport)
    (peer : Peer) : Opened :=
  match tlsFault? secure host transport with
  | some fault => ⟨.error (.tls fault), []⟩
  | none =>
    match peer.accepting with
    | .fails fault => ⟨.error (.connect address fault), [.dialled address]⟩
    | .stalls => ⟨.error (.timeout .connect transport.timeout), [.dialled address, .stalled]⟩
    | .accepts =>
      let ready := .ok ⟨address, secure, transport.timeout, some (.new peer)⟩
      if !secure then ⟨ready, [.dialled address, .connected]⟩
      else match peer.handshake with
        | .completes => ⟨ready, [.dialled address, .connected, .secured]⟩
        | .fails reason =>
          ⟨.error (.tls (.handshake address reason)), [.dialled address, .connected, .released]⟩
        | .stalls =>
          ⟨.error (.timeout .handshake transport.timeout),
            [.dialled address, .connected, .stalled, .released]⟩

def isClosed (c : Connection) : Bool := c.stream.isNone

private def notConnected (stage : Stage) : ProbeError := .io stage (.ofClass .notConnected)

/-- Sends all bytes, or as many as the peer takes. -/
def write (c : Connection) (bytes : List UInt8) : Exchanged Unit :=
  match c.stream with
  | none => ⟨.error (notConnected .write), c, []⟩
  | some s =>
    if s.broken then ⟨.error (.io .write .pipeBroken), c, []⟩
    else
      let sending (taken : List UInt8) (result : Except ProbeError Unit)
          (later : List WireEvent) : Exchanged Unit :=
        ⟨result, { c with stream := some (s.record taken) }, .sent taken :: later⟩
      let whole (room : Nat) : Bool := s.sent.length + bytes.length ≤ room
      let part (room : Nat) : List UInt8 := bytes.take (room - s.sent.length)
      match s.peer.intake with
      | .unbounded => sending bytes (.ok ()) []
      | .failsAfter room fault =>
        if whole room then sending bytes (.ok ()) []
        else sending (part room) (.error (.io .write fault)) []
      | .stallsAfter room =>
        if whole room then sending bytes (.ok ()) []
        else sending (part room) (.error (.timeout .write c.timeout)) [.stalled]

/-- Reads up to and with the next LF; a longer line is cut off, and at the end of the stream
there is nothing to read. What a failed read has gathered is lost. -/
def readLine (c : Connection) : Exchanged (List UInt8) :=
  match c.stream with
  | none => ⟨.error (notConnected .read), c, []⟩
  | some s =>
    let late : Except ProbeError (List UInt8) := .error (.timeout .read c.timeout)
    if s.waiting then ⟨late, c, [.awaited, .stalled]⟩
    else
      let g := gather maxLineLength s.buffer s.peer.chunks
      let after := { s with buffer := g.buffer, peer := { s.peer with chunks := g.chunks } }
      let reading (s : Stream) (result : Except ProbeError (List UInt8)) :
          Exchanged (List UInt8) := ⟨result, { c with stream := some s }, [.awaited]⟩
      if g.complete then reading after (.ok g.line)
      else match s.peer.ending with
        | .endOfStream => reading after (.ok g.line)
        | .silence => { reading after late with wire := [.awaited, .stalled] }
        | .fault fault =>
          reading { after with broken := true, peer := { after.peer with ending := .endOfStream } }
            (.error (.io .read fault))

/-- Releases the connection, however its end goes; once is enough. -/
def close (c : Connection) : Exchanged Unit :=
  match c.stream with
  | none => ⟨.ok (), c, []⟩
  | some s =>
    ⟨.ok (), { c with stream := none },
      if s.peer.leaving = .stalls then [.stalled, .released] else [.released]⟩

def summary (c : Connection) : String :=
  "TransportSession \x7b peer: " ++ c.address.text ++ ", tls: " ++
    toString (c.secure && !c.isClosed) ++ ", closed: " ++ toString c.isClosed ++ " \x7d"

@[simp] theorem isClosed_close (c : Connection) : c.close.connection.isClosed = true := by
  cases h : c.stream <;> simp [close, isClosed, h]

end Connection

structure Network where
  lookup : String → UInt16 → Option SocketAddress
  peer : SocketAddress → Peer

def lookupNumeric (host : String) (port : UInt16) : Option SocketAddress :=
  (numericHost? host.toList).map (⟨·, port, 0⟩)

def Peer.unreachable (fault : Fault) : Peer :=
  ⟨.fails fault, .completes, .unbounded, false, [], .endOfStream, .completes⟩

end Net
end Liveness
