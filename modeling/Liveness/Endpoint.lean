import Liveness.Text.Basic
import Liveness.Text.Numeral
import Liveness.Text.Quoted

/-! Probe targets: the grammar `scheme://host[:port][/path]`, joining a base with a relative path,
and the canonical text. Host and path enter the request head as they stand, so this module refuses
what could break it. -/
namespace Liveness

/-- Transport security, chosen by the scheme of a URL. -/
inductive Scheme where
  | plain
  | secure
deriving DecidableEq, Repr

namespace Scheme

def name : Scheme → String
  | .plain => "http"
  | .secure => "https"

def defaultPort : Scheme → UInt16
  | .plain => 80
  | .secure => 443

def isSecure : Scheme → Bool
  | .plain => false
  | .secure => true

/-- The scheme of a token, in any ASCII case. -/
def ofToken? (token : List Char) : Option Scheme :=
  let lower := token.map Char.toLower
  if lower = "http".toList then some .plain
  else if lower = "https".toList then some .secure
  else none

@[simp] theorem ofToken?_name (s : Scheme) : ofToken? s.name.toList = some s := by
  cases s <;> decide

end Scheme

/-- A probe target. The path has no leading slash and may be empty. -/
structure Endpoint where
  scheme : Scheme
  host : String
  port : UInt16
  path : String
deriving DecidableEq, Repr

inductive UrlFault where
  | missingSeparator
  | unsupportedScheme (token : String)
  | portZero
  | invalidPort (text : String)
  | emptyHost
  | hostCharacter (c : Char)
  | pathCharacter
  | stated (reason : String)
deriving DecidableEq, Repr

def UrlFault.message : UrlFault → String
  | .missingSeparator => "missing '://' scheme separator"
  | .unsupportedScheme token => "unsupported scheme '" ++ token ++ "'"
  | .portZero => "port must be in 1..=65535"
  | .invalidPort text => "invalid port '" ++ text ++ "'"
  | .emptyHost => "empty host"
  | .hostCharacter c => "invalid character " ++ Text.quotedChar c ++ " in host"
  | .pathCharacter => "whitespace or control character in path"
  | .stated reason => reason

structure MalformedUrl where
  url : String
  fault : UrlFault
deriving DecidableEq, Repr

def MalformedUrl.message (e : MalformedUrl) : String :=
  "Malformed URL '" ++ e.url ++ "': " ++ e.fault.message

namespace Endpoint
open Text

/-- The characters of registered names and IPv4 literals. -/
def isHostChar (c : Char) : Bool :=
  c.isAlphanum || c == '.' || c == '-' || c == '_'

def isPathChar (c : Char) : Bool := !isBlank c && !isControl c

def readPort (digits : List Char) : Except UrlFault UInt16 :=
  match readNumeral max16 digits with
  | .ok 0 => .error .portZero
  | .ok n => .ok (UInt16.ofNat n)
  | .error _ => .error (.invalidPort (String.ofList digits))

/-- The host and port of an authority; the port is checked before the host is. -/
def readAuthority (scheme : Scheme) (authority : List Char) :
    Except UrlFault (List Char × UInt16) :=
  match cut? [':'] authority with
  | some (host, digits) => (readPort digits).map (host, ·)
  | none => .ok (authority, scheme.defaultPort)

/-- Reads `scheme://host[:port][/path]`. -/
def read (url : List Char) : Except UrlFault Endpoint :=
  match cut? "://".toList url with
  | none => .error .missingSeparator
  | some (token, rest) =>
    match Scheme.ofToken? token with
    | none => .error (.unsupportedScheme (String.ofList token))
    | some scheme =>
      let (authority, path) := (cut? ['/'] rest).getD (rest, [])
      match readAuthority scheme authority with
      | .error e => .error e
      | .ok (host, port) =>
        if host.isEmpty then .error .emptyHost
        else match host.find? (!isHostChar ·) with
          | some c => .error (.hostCharacter c)
          | none =>
            if path.all isPathChar then
              .ok ⟨scheme, String.ofList host, port, String.ofList path⟩
            else .error .pathCharacter

def parse (url : String) : Except MalformedUrl Endpoint :=
  (read url.toList).mapError (⟨url, ·⟩)

/-- The URL of a path below a base: exactly one slash stands between them. -/
def joinedUrl (base relative : String) : String :=
  String.ofList (dropEnd (· == '/') base.toList ++ '/' :: relative.toList.dropWhile (· == '/'))

def join (base relative : String) : Except MalformedUrl Endpoint :=
  parse (joinedUrl base relative)

/-- The canonical text: the default port is left out, the slash before the path is not. -/
def display (e : Endpoint) : String :=
  e.scheme.name ++ "://" ++ e.host ++
    (if e.port = e.scheme.defaultPort then "" else ":" ++ toString e.port.toNat) ++ "/" ++ e.path

theorem parse_error_url {url : String} {e : MalformedUrl} (h : parse url = .error e) :
    e.url = url := by
  unfold parse at h
  cases hr : read url.toList with
  | ok endpoint => rw [hr] at h; nomatch h
  | error fault => rw [hr] at h; exact Except.error.inj h ▸ rfl

end Endpoint
end Liveness
