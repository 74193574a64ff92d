import Liveness.Probe
import Liveness.Proofs.Net.Connection

/-! One probe attempt: where it is directed, what goes over the wire, and how it can fail. -/
namespace Liveness
open Net

namespace ProbeError

def isExchange : ProbeError → Bool
  | .protocol _ => true
  | e => e.isStream

theorem isExchange_of_isStream {e : ProbeError} (h : e.isStream) : e.isExchange := by
  cases e <;> first | rfl | nomatch h

end ProbeError

namespace Probe
variable {request : ProbeRequest} {transport : Transport} {network : Network} {target : Endpoint}
  {c : Connection} {head : List UInt8} {event : WireEvent} {e : ProbeError}

theorem mem_wire_exchange (h : event ∈ (exchange c head).wire) :
    event = .stalled ∨ event = .awaited ∨ ∃ taken, taken <+: head ∧ event = .sent taken := by
  unfold exchange at h
  dsimp only at h
  split at h
  · exact (Connection.mem_wire_write h).imp_right .inr
  · rw [List.mem_append] at h
    obtain h | h := h
    · exact (Connection.mem_wire_write h).imp_right .inr
    · exact (Connection.mem_wire_readLine h).symm.imp_right .inl

/-- What follows the opening of a connection. -/
theorem mem_wire_answered
    (h : event ∈ (exchange c head).wire ++ (exchange c head).connection.close.wire) :
    event = .stalled ∨ event = .awaited ∨ event = .released ∨
      ∃ taken, taken <+: head ∧ event = .sent taken := by
  rw [List.mem_append] at h
  obtain h | h := h
  · obtain hevent | hevent | hsent := mem_wire_exchange h
    · exact .inl hevent
    · exact .inr (.inl hevent)
    · exact .inr (.inr (.inr hsent))
  · obtain hevent | hevent := Connection.mem_wire_close h
    · exact .inl hevent
    · exact .inr (.inr (.inl hevent))

theorem exchange_eq_error (h : (exchange c head).result = .error e) : e.isExchange := by
  unfold exchange at h
  dsimp only at h
  split at h
  next fault hwrite =>
    obtain rfl := Except.error.inj h
    exact ProbeError.isExchange_of_isStream (Connection.write_eq_error hwrite)
  · split at h
    next fault hread =>
      obtain rfl := Except.error.inj h
      exact ProbeError.isExchange_of_isStream (Connection.readLine_eq_error hread)
    next line _ =>
      cases hstatus : StatusLine.ofBytes line with
      | ok status =>
        rw [hstatus] at h
        nomatch h
      | error fault =>
        rw [hstatus] at h
        obtain rfl := Except.error.inj h
        rfl

/-- An attempt that goes to a target: it dials the address that the target's host and port resolve
to, with TLS where the target is secure, and sends a part of the target's request head. -/
structure Toward (target : Endpoint) (request : ProbeRequest) (network : Network)
    (wire : List WireEvent) : Prop where
  dialled : ∀ peer, .dialled peer ∈ wire → network.lookup target.host target.port = some peer
  secured : .secured ∈ wire → target.scheme = .secure
  sent : ∀ bytes, .sent bytes ∈ wire →
    bytes <+: Request.encode request.method target request.token ∧
      (target.scheme = .secure → .secured ∈ wire)

theorem run_of_malformed {fault : MalformedUrl} (h : request.endpoint = .error fault) :
    run request transport network = ⟨.error (.malformedUrl fault), []⟩ := by
  simp only [run, h]

theorem run_of_unresolved (h : request.endpoint = .ok target)
    (hlookup : network.lookup target.host target.port = none) :
    run request transport network = ⟨.error (.resolution target.host target.port), []⟩ := by
  simp only [run, h, hlookup]

theorem run_of_tlsFault? {address : SocketAddress} {fault : TlsFault}
    (h : request.endpoint = .ok target)
    (hlookup : network.lookup target.host target.port = some address)
    (hfault : Connection.tlsFault? target.scheme.isSecure target.host transport = some fault) :
    run request transport network = ⟨.error (.tls fault), []⟩ := by
  simp only [run, h, hlookup, Connection.open_of_tlsFault? hfault]

def opened (target : Endpoint) (transport : Transport) (network : Network)
    (address : SocketAddress) : Opened :=
  Connection.open address target.scheme.isSecure target.host transport (network.peer address)

theorem run_of_resolved {address : SocketAddress} (h : request.endpoint = .ok target)
    (hlookup : network.lookup target.host target.port = some address) :
    run request transport network = match (opened target transport network address).result with
      | .error e => ⟨.error e, (opened target transport network address).wire⟩
      | .ok c =>
        let exchanged := exchange c (Request.encode request.method target request.token)
        ⟨exchanged.result, (opened target transport network address).wire ++ exchanged.wire ++
          exchanged.connection.close.wire⟩ := by
  simp only [run, h, hlookup]
  rfl

theorem scheme_of_isSecure (h : target.scheme.isSecure = true) : target.scheme = .secure := by
  cases hs : target.scheme with
  | plain =>
    rw [hs] at h
    nomatch h
  | secure => rfl

theorem toward_of_endpoint (h : request.endpoint = .ok target) :
    Toward target request network (run request transport network).wire := by
  cases hlookup : network.lookup target.host target.port with
  | none =>
    rw [run_of_unresolved h hlookup]
    exact ⟨nofun, nofun, nofun⟩
  | some address =>
    rw [run_of_resolved h hlookup]
    have hopen (event : WireEvent) (hmem : event ∈ (opened target transport network address).wire) :=
      Connection.mem_wire_open hmem
    have hdialled (peer : SocketAddress)
        (hmem : .dialled peer ∈ (opened target transport network address).wire) :
        network.lookup target.host target.port = some peer := by
      have heq : peer = address := by simpa using hopen _ hmem
      rw [heq, hlookup]
    have hsecured (hmem : .secured ∈ (opened target transport network address).wire) :
        target.scheme = .secure := scheme_of_isSecure (by simpa using hopen _ hmem)
    have hsent (bytes : List UInt8) :
        .sent bytes ∉ (opened target transport network address).wire := by
      intro hmem
      simpa using hopen _ hmem
    cases hresult : (opened target transport network address).result with
    | error fault => exact ⟨hdialled, hsecured, fun bytes hmem => absurd hmem (hsent bytes)⟩
    | ok c =>
      have hwire := (Connection.open_eq_ok hresult).2
      have hlater {event : WireEvent} := @mem_wire_answered c
        (Request.encode request.method target request.token) event
      simp only [List.append_assoc]
      refine ⟨fun peer hmem => ?_, fun hmem => ?_, fun bytes hmem => ?_⟩
      · obtain hmem | hmem := List.mem_append.1 hmem
        · exact hdialled peer hmem
        · simpa using hlater hmem
      · obtain hmem | hmem := List.mem_append.1 hmem
        · exact hsecured hmem
        · simpa using hlater hmem
      · obtain hmem | hmem := List.mem_append.1 hmem
        · exact absurd hmem (hsent bytes)
        · refine ⟨by simpa using hlater hmem, fun hscheme => ?_⟩
          have hsecure : WireEvent.secured ∈ (opened target transport network address).wire := by
            rw [opened, hwire, hscheme]
            simp [Scheme.isSecure]
          exact List.mem_append_left _ hsecure

/-- An attempt at a target fails at its resolution, at its connection, or in its exchange. -/
theorem run_eq_error (h : request.endpoint = .ok target)
    (he : (run request transport network).result = .error e) :
    e = .resolution target.host target.port ∨
      (∃ fault, Connection.tlsFault? target.scheme.isSecure target.host transport = some fault ∧
        e = .tls fault) ∨
      (∃ address fault, e = .connect address fault) ∨
      (∃ address reason, e = .tls (.handshake address reason)) ∨ e.isExchange := by
  cases hlookup : network.lookup target.host target.port with
  | none =>
    rw [run_of_unresolved h hlookup] at he
    exact .inl (Except.error.inj he).symm
  | some address =>
    rw [run_of_resolved h hlookup] at he
    cases hresult : (opened target transport network address).result with
    | error fault =>
      rw [hresult] at he
      obtain rfl := Except.error.inj he
      obtain htls | ⟨fault, hconnect⟩ | ⟨reason, htls⟩ | hstream := Connection.open_eq_error hresult
      · exact .inr (.inl htls)
      · exact .inr (.inr (.inl ⟨address, fault, hconnect⟩))
      · exact .inr (.inr (.inr (.inl ⟨address, reason, htls⟩)))
      · exact .inr (.inr (.inr (.inr (ProbeError.isExchange_of_isStream hstream))))
    | ok c =>
      rw [hresult] at he
      exact .inr (.inr (.inr (.inr (exchange_eq_error he))))

end Probe
end Liveness
