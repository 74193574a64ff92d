import Liveness.Endpoint
import Liveness.Text.Utf8

/-! The head of a probe: an HTTP/1.0 request without a body. -/
namespace Liveness

inductive Method where
  | get
  | head
  | post
  | put
deriving DecidableEq, Repr

namespace Method

def name : Method → String
  | .get => "GET"
  | .head => "HEAD"
  | .post => "POST"
  | .put => "PUT"

def all : List Method := [.get, .head, .post, .put]

/-- The method of a name, in any ASCII case. -/
def ofName? (s : String) : Option Method :=
  all.find? fun m => m.name.toList == s.toList.map Char.toUpper

theorem ofName?_name (m : Method) : ofName? m.name = some m := by
  cases m <;> decide

theorem name_of_ofName? {s : String} {m : Method} (h : ofName? s = some m) :
    m.name.toList = s.toList.map Char.toUpper := by
  simpa using List.find?_some h

end Method

namespace Request

/-- The text of a request head: the request line, the host, and the token if there is one, each
ended by CR and LF, and an empty line. -/
def headText (method : Method) (endpoint : Endpoint) (token : Option String) : String :=
  method.name ++ " /" ++ endpoint.path ++ " HTTP/1.0\r\nHost: " ++ endpoint.host ++ "\r\n" ++
    (match token with
      | none => ""
      | some t => "Authorization: " ++ t ++ "\r\n") ++ "\r\n"

def encode (method : Method) (endpoint : Endpoint) (token : Option String) : List UInt8 :=
  Text.Utf8.encode (headText method endpoint token)

end Request
end Liveness
