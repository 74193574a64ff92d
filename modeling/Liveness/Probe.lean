import Liveness.Net.Connection
import Liveness.Probe.Prober
import Liveness.Request

/-! One liveness probe: resolve the target, connect, write the request head, read the status line,
release the connection. -/
namespace Liveness

def livenessPath : String := "api/v1/up"

/-- What every probe sends. The token is the verbatim value of the authorization header. -/
structure ProbeRequest where
  baseUrl : String
  path : String
  method : Method
  token : Option String
deriving DecidableEq, Repr

def ProbeRequest.endpoint (r : ProbeRequest) : Except MalformedUrl Endpoint :=
  Endpoint.join r.baseUrl r.path

namespace Probe
open Net

structure Probed where
  result : Except ProbeError StatusLine
  wire : List WireEvent

def exchange (c : Connection) (head : List UInt8) : Exchanged StatusLine :=
  let written := c.write head
  match written.result with
  | .error e => ⟨.error e, written.connection, written.wire⟩
  | .ok () =>
    let answered := written.connection.readLine
    ⟨match answered.result with
      | .error e => .error e
      | .ok line => (StatusLine.ofBytes line).mapError .protocol,
      answered.connection, written.wire ++ answered.wire⟩

/-- Makes one probe, over one connection at most, which is released in every case. -/
def run (request : ProbeRequest) (transport : Transport) (network : Network) : Probed :=
  match request.endpoint with
  | .error e => ⟨.error (.malformedUrl e), []⟩
  | .ok target =>
    match network.lookup target.host target.port with
    | none => ⟨.error (.resolution target.host target.port), []⟩
    | some address =>
      let head := Request.encode request.method target request.token
      let opened := Connection.open address target.scheme.isSecure target.host transport
        (network.peer address)
      match opened.result with
      | .error e => ⟨.error e, opened.wire⟩
      | .ok c =>
        let exchanged := exchange c head
        ⟨exchanged.result, opened.wire ++ exchanged.wire ++ exchanged.connection.close.wire⟩

end Probe

structure HttpProber where
  request : ProbeRequest
  transport : Transport
  network : Net.Network

/-- A probe takes the time that it waits in vain. -/
instance : Prober HttpProber where
  probe p :=
    let probed := Probe.run p.request p.transport p.network
    let vain := probed.wire.filter (· == .stalled)
    ⟨probed.result, p, vain.map fun _ => .takes p.transport.timeout⟩

end Liveness
