import Liveness.Duration
import Liveness.Endpoint
import Liveness.Net.Address
import Liveness.Net.Fault

/-! What can go wrong in one probe. -/
namespace Liveness

/-- The parts of a probe that wait for the peer, and parts in the words of whoever reports them. -/
inductive Stage where
  | connect
  | handshake
  | write
  | read
  | stated (name : String)
deriving DecidableEq, Repr

def Stage.name : Stage → String
  | .connect => "connect"
  | .handshake => "tls handshake"
  | .write => "write"
  | .read => "read"
  | .stated name => name

inductive TlsFault where
  | disabled
  | serverName (host : String)
  | handshake (peer : Net.SocketAddress) (reason : String)
  | stated (text : String)
deriving DecidableEq, Repr

def TlsFault.message : TlsFault → String
  | .disabled => "TLS is disabled; certificate verification is unavailable, " ++
      "opt in with TlsMode::DangerAcceptInvalid"
  | .serverName host => "invalid server name '" ++ host ++ "'"
  | .handshake peer reason => "handshake with " ++ peer.text ++ " failed: " ++ reason
  | .stated text => text

inductive StatusFault where
  | closed
  | notUtf8
  | unexpected (line : String)
  | stated (text : String)
deriving DecidableEq, Repr

def StatusFault.message : StatusFault → String
  | .closed => "connection closed before status line"
  | .notUtf8 => "status line is not valid UTF-8"
  | .unexpected line => "unexpected status line '" ++ line ++ "'"
  | .stated text => text

inductive ProbeError where
  | malformedUrl (e : MalformedUrl)
  | resolution (host : String) (port : UInt16)
  | connect (peer : Net.SocketAddress) (fault : Net.Fault)
  | tls (fault : TlsFault)
  | timeout (stage : Stage) (after : Duration)
  | io (stage : Stage) (fault : Net.Fault)
  | protocol (fault : StatusFault)
deriving DecidableEq, Repr

inductive FailureKind where
  | malformedUrl
  | resolution
  | connect
  | timeout
  | association
  | protocol
deriving DecidableEq, Repr

def FailureKind.label : FailureKind → String
  | .malformedUrl => "malformed_url"
  | .resolution => "resolution"
  | .connect => "connect"
  | .timeout => "timeout"
  | .association => "association"
  | .protocol => "protocol"

namespace ProbeError

def message : ProbeError → String
  | .malformedUrl e => e.message
  | .resolution host port => "No address found for " ++ host ++ ":" ++ toString port.toNat
  | .connect peer fault => "Connect to " ++ peer.text ++ " failed: " ++ fault.message
  | .tls fault => "TLS error: " ++ fault.message
  | .timeout stage after => stage.name ++ " timed out after " ++ toString after.millis ++ "ms"
  | .io stage fault => "Stream " ++ stage.name ++ " failed: " ++ fault.message
  | .protocol fault => "Protocol error: " ++ fault.message

def kind : ProbeError → FailureKind
  | .malformedUrl _ => .malformedUrl
  | .resolution .. => .resolution
  | .connect .. | .tls _ | .io .. => .connect
  | .timeout .. => .timeout
  | .protocol _ => .protocol

end ProbeError
end Liveness
