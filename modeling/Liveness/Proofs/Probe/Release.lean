import Liveness.Proofs.Net.Lifetime
import Liveness.Proofs.Probe.Attempt

/-! One probe, one connection at most. Whatever the peer does, the connection is released before the
probe is over, nothing is sent but the request head, and the end of the connection decides nothing. -/
namespace Liveness
open Net

namespace Net
variable {c : Connection} {peer : Peer} {leaving : Leaving} {head : List UInt8}

/-- A peer that meets the end of its connection in another way. -/
def Peer.leftBy (peer : Peer) (leaving : Leaving) : Peer := { peer with leaving }

def Connection.leftBy (c : Connection) (leaving : Leaving) : Connection :=
  { c with stream := c.stream.map fun s => { s with peer := s.peer.leftBy leaving } }

def Network.leftBy (network : Network) (leaving : SocketAddress → Leaving) : Network :=
  { network with peer := fun address => (network.peer address).leftBy (leaving address) }

theorem Connection.open_leftBy (address : SocketAddress) (secure : Bool) (host : String)
    (transport : Transport) :
    «open» address secure host transport (peer.leftBy leaving) =
      ⟨(«open» address secure host transport peer).result.map (·.leftBy leaving),
        («open» address secure host transport peer).wire⟩ := by
  unfold «open»
  cases tlsFault? secure host transport with
  | some fault => rfl
  | none =>
    have haccepting : (peer.leftBy leaving).accepting = peer.accepting := rfl
    have hhandshake : (peer.leftBy leaving).handshake = peer.handshake := rfl
    rw [haccepting, hhandshake]
    cases peer.accepting with
    | fails fault => rfl
    | stalls => rfl
    | accepts =>
      cases secure with
      | false => rfl
      | true => cases peer.handshake <;> rfl

theorem Connection.write_leftBy : (c.leftBy leaving).write head =
    ⟨(c.write head).result, (c.write head).connection.leftBy leaving, (c.write head).wire⟩ := by
  obtain ⟨address, secure, timeout, _ | ⟨peer, buffer, sent, headSeen, broken⟩⟩ := c
  · rfl
  · cases broken with
    | true => rfl
    | false =>
      have hintake : (peer.leftBy leaving).intake = peer.intake := rfl
      simp only [leftBy, write, Option.map_some, hintake]
      cases peer.intake with
      | unbounded => rfl
      | failsAfter count fault =>
        dsimp only
        split_ifs <;> rfl
      | stallsAfter count =>
        dsimp only
        split_ifs <;> rfl

theorem Connection.readLine_leftBy : (c.leftBy leaving).readLine =
    ⟨c.readLine.result, c.readLine.connection.leftBy leaving, c.readLine.wire⟩ := by
  obtain ⟨address, secure, timeout, _ | ⟨peer, buffer, sent, headSeen, broken⟩⟩ := c
  · rfl
  · have hwaiting : Stream.waiting ⟨peer.leftBy leaving, buffer, sent, headSeen, broken⟩ =
        Stream.waiting ⟨peer, buffer, sent, headSeen, broken⟩ := rfl
    have hchunks : (peer.leftBy leaving).chunks = peer.chunks := rfl
    have hending : (peer.leftBy leaving).ending = peer.ending := rfl
    simp only [leftBy, readLine, Option.map_some, hwaiting, hchunks, hending]
    split_ifs
    · rfl
    · rfl
    · cases peer.ending <;> rfl

end Net

namespace Probe
variable {request : ProbeRequest} {transport : Transport} {network : Network} {target : Endpoint}
  {address : SocketAddress} {c : Connection} {head : List UInt8}

theorem exchange_leftBy {leaving : Leaving} :
    (exchange (c.leftBy leaving) head).result = (exchange c head).result := by
  unfold exchange
  rw [Connection.write_leftBy]
  dsimp only
  cases (c.write head).result with
  | error e => rfl
  | ok written =>
    dsimp only
    rw [Connection.readLine_leftBy]

/-- How the end of the connection goes decides nothing. -/
theorem run_leftBy (leaving : SocketAddress → Leaving) :
    (run request transport (network.leftBy leaving)).result =
      (run request transport network).result := by
  cases hendpoint : request.endpoint with
  | error fault => rw [run_of_malformed hendpoint, run_of_malformed hendpoint]
  | ok target =>
    cases hlookup : network.lookup target.host target.port with
    | none =>
      have hleft : (network.leftBy leaving).lookup target.host target.port = none := hlookup
      rw [run_of_unresolved hendpoint hlookup, run_of_unresolved hendpoint hleft]
    | some address =>
      have hleft : (network.leftBy leaving).lookup target.host target.port = some address := hlookup
      have hopened : opened target transport (network.leftBy leaving) address =
          ⟨(opened target transport network address).result.map (·.leftBy (leaving address)),
            (opened target transport network address).wire⟩ := Connection.open_leftBy _ _ _ _
      rw [run_of_resolved hendpoint hlookup, run_of_resolved hendpoint hleft, hopened]
      cases (opened target transport network address).result with
      | error e => rfl
      | ok c => exact exchange_leftBy

theorem wire_exchange_of_unwritten {e : ProbeError} (h : (c.write head).result = .error e) :
    (exchange c head).wire = (c.write head).wire ∧
      (exchange c head).connection = (c.write head).connection := by
  simp only [exchange, h, and_self]

theorem wire_exchange_of_written (h : (c.write head).result = .ok ()) :
    (exchange c head).wire = (c.write head).wire ++ (c.write head).connection.readLine.wire ∧
      (exchange c head).connection = (c.write head).connection.readLine.connection := by
  simp only [exchange, h, and_self]

/-- An exchange over an open connection, and the release behind it. -/
theorem lives_exchange (head : List UInt8) (h : c.isClosed = false) :
    ∃ sent, Lives head (.opened [])
      ((exchange c head).wire ++ (exchange c head).connection.close.wire) (.released sent) := by
  obtain ⟨taken, -, hwrite, hwhole⟩ := Connection.lives_write c head
  have hwritten : (c.write head).connection.isClosed = false := Connection.isClosed_write h
  cases hresult : (c.write head).result with
  | error e =>
    obtain ⟨hwire, hconnection⟩ := wire_exchange_of_unwritten hresult
    rw [hwire, hconnection]
    exact ⟨taken, hwrite.append (Connection.lives_close hwritten)⟩
  | ok written =>
    obtain ⟨hwire, hconnection⟩ := wire_exchange_of_written hresult
    obtain rfl := hwhole hresult
    have hread := Connection.lives_readLine (c.write taken).connection taken
    have hopen := Connection.isClosed_readLine hwritten
    rw [hwire, hconnection]
    exact ⟨taken, (hwrite.append hread).append (Connection.lives_close hopen)⟩

theorem exists_lives (transport : Transport) (network : Network)
    (h : request.endpoint = .ok target) :
    ∃ m, Lives (Request.encode request.method target request.token) .absent
      (run request transport network).wire m ∧ m.releases = m.openings := by
  cases hlookup : network.lookup target.host target.port with
  | none =>
    rw [run_of_unresolved h hlookup]
    exact ⟨.absent, .nil _, rfl⟩
  | some address =>
    rw [run_of_resolved h hlookup]
    cases hresult : (opened target transport network address).result with
    | error e => exact Connection.lives_open_error hresult
    | ok c =>
      have hopen : c.isClosed = false := by
        rw [(Connection.open_eq_ok hresult).1]
        rfl
      obtain ⟨sent, hexchange⟩ := lives_exchange _ hopen
      have hlife := (Connection.lives_open hresult).append hexchange
      rw [← List.append_assoc] at hlife
      exact ⟨.released sent, hlife, rfl⟩

/-- What keeps a probe from opening a connection. -/
inductive Unopened (request : ProbeRequest) (transport : Transport) (network : Network) : Prop
  | malformed {fault : MalformedUrl} (endpoint : request.endpoint = .error fault)
  | unresolved {target : Endpoint} (endpoint : request.endpoint = .ok target)
      (lookup : network.lookup target.host target.port = none)
  | disabled {target : Endpoint} (endpoint : request.endpoint = .ok target)
      (secure : target.scheme = .secure) (tls : transport.tls = .disabled)
  | unnamed {target : Endpoint} (endpoint : request.endpoint = .ok target)
      (secure : target.scheme = .secure) (name : isServerName target.host = false)

theorem exists_tlsFault? (hsecure : target.scheme = .secure)
    (h : transport.tls = .disabled ∨ isServerName target.host = false) :
    ∃ fault, Connection.tlsFault? target.scheme.isSecure target.host transport = some fault := by
  rw [hsecure]
  unfold Connection.tlsFault?
  cases htls : transport.tls with
  | disabled => exact ⟨_, rfl⟩
  | acceptAny =>
    obtain hdisabled | hname := h
    · rw [htls] at hdisabled
      nomatch hdisabled
    · rw [hname]
      exact ⟨_, rfl⟩

theorem wire_of_unopened (h : Unopened request transport network) :
    (run request transport network).wire = [] := by
  have hfault {target : Endpoint} (hendpoint : request.endpoint = .ok target)
      (hsecure : target.scheme = .secure)
      (hno : transport.tls = .disabled ∨ isServerName target.host = false) :
      (run request transport network).wire = [] := by
    obtain ⟨fault, htls⟩ := exists_tlsFault? hsecure hno
    cases hlookup : network.lookup target.host target.port with
    | none => rw [run_of_unresolved hendpoint hlookup]
    | some address => rw [run_of_tlsFault? hendpoint hlookup htls]
  cases h with
  | malformed hendpoint => rw [run_of_malformed hendpoint]
  | unresolved hendpoint hlookup => rw [run_of_unresolved hendpoint hlookup]
  | disabled hendpoint hsecure htls => exact hfault hendpoint hsecure (.inl htls)
  | unnamed hendpoint hsecure hname => exact hfault hendpoint hsecure (.inr hname)

theorem tlsFault?_of_not_unopened (hendpoint : request.endpoint = .ok target)
    (h : ¬ Unopened request transport network) :
    Connection.tlsFault? target.scheme.isSecure target.host transport = none := by
  unfold Connection.tlsFault?
  cases hscheme : target.scheme with
  | plain => rfl
  | secure =>
    cases htls : transport.tls with
    | disabled => exact absurd (.disabled hendpoint hscheme htls) h
    | acceptAny =>
      cases hname : isServerName target.host with
      | true => rfl
      | false => exact absurd (.unnamed hendpoint hscheme hname) h

theorem connected_mem_wire_of_resolved (h : request.endpoint = .ok target)
    (hlookup : network.lookup target.host target.port = some address) :
    .connected ∈ (run request transport network).wire ↔
      .connected ∈ (opened target transport network address).wire := by
  rw [run_of_resolved h hlookup]
  cases (opened target transport network address).result with
  | error e => rfl
  | ok c =>
    -- Nothing is opened in the exchange.
    have hlater : .connected ∉ (exchange c (Request.encode request.method target request.token)).wire ++
        (exchange c (Request.encode request.method target request.token)).connection.close.wire := by
      intro hmem
      simpa using mem_wire_answered hmem
    dsimp only
    rw [List.append_assoc, List.mem_append, or_iff_left hlater]

/-- Unless something keeps it from that, a probe opens a connection exactly if the peer accepts it. -/
theorem connected_mem_wire_iff : .connected ∈ (run request transport network).wire ↔
    ¬ Unopened request transport network ∧ ∃ target address, request.endpoint = .ok target ∧
      network.lookup target.host target.port = some address ∧
      (network.peer address).accepting = .accepts := by
  constructor
  · intro h
    have hno : ¬ Unopened request transport network := by
      intro hunopened
      rw [wire_of_unopened hunopened] at h
      nomatch h
    refine ⟨hno, ?_⟩
    cases hendpoint : request.endpoint with
    | error fault => exact absurd (.malformed hendpoint) hno
    | ok target =>
      cases hlookup : network.lookup target.host target.port with
      | none => exact absurd (.unresolved hendpoint hlookup) hno
      | some address =>
        rw [connected_mem_wire_of_resolved hendpoint hlookup, opened,
          Connection.connected_mem_open_iff] at h
        exact ⟨target, address, rfl, hlookup, h.2⟩
  · rintro ⟨hno, target, address, hendpoint, hlookup, haccepts⟩
    rw [connected_mem_wire_of_resolved hendpoint hlookup, opened, Connection.connected_mem_open_iff]
    exact ⟨tlsFault?_of_not_unopened hendpoint hno, haccepts⟩

/-- A probe opens one connection or none, and none where its URL, its resolution or TLS forbids it.
What it opens it releases, as the last thing that it does; up to then it sends its head from the
beginning, and awaits an answer once all of it is out. Its result is that of the exchange, however the
connection ends. -/
theorem run_one_connection (request : ProbeRequest) (transport : Transport) (network : Network) :
    let probed := run request transport network
    OneConnection probed.wire ∧
      (Unopened request transport network → probed.wire = []) ∧
      (.connected ∈ probed.wire ↔ ¬ Unopened request transport network ∧
        ∃ target address, request.endpoint = .ok target ∧
          network.lookup target.host target.port = some address ∧
          (network.peer address).accepting = .accepts) ∧
      (∀ target, request.endpoint = .ok target →
        let head := Request.encode request.method target request.token
        Sends head probed.wire ∧
          ∀ address c, network.lookup target.host target.port = some address →
            (opened target transport network address).result = .ok c →
            probed.result = (exchange c head).result) ∧
      ∀ leaving, (run request transport (network.leftBy leaving)).result = probed.result := by
  refine ⟨?_, wire_of_unopened, connected_mem_wire_iff, fun target h => ⟨?_, ?_⟩, run_leftBy⟩
  · cases hendpoint : request.endpoint with
    | error fault =>
      have hlife : Lives [] .absent [] .absent := .nil _
      rw [run_of_malformed hendpoint]
      exact hlife.oneConnection rfl
    | ok target =>
      obtain ⟨m, hlife, hm⟩ := exists_lives transport network hendpoint
      exact hlife.oneConnection hm
  · obtain ⟨m, hlife, -⟩ := exists_lives transport network h
    exact hlife.sends
  · intro address c hlookup hopened
    rw [run_of_resolved h hlookup, hopened]

example :
    let peer : Peer := ⟨.accepts, .completes, .stallsAfter 4, true, [], .silence, .stalls⟩
    let address : SocketAddress := ⟨.v4 0x0A000001, 80, 0⟩
    (run ⟨"http://h", "up", .get, none⟩ ⟨.disabled, .ofSecs 3⟩
        ⟨fun _ _ => some address, fun _ => peer⟩).wire =
      [.dialled address, .connected, .sent (Text.Utf8.encode "GET "), .stalled, .stalled,
        .released] := by
  decide +kernel

end Probe
end Liveness
