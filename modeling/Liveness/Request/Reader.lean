import Liveness.Request

/-! Reading request heads: what a peer can tell from the bytes of a head. -/
namespace Liveness.Request
open Text

structure Head where
  method : Method
  path : String
  host : String
  token : Option String
deriving DecidableEq, Repr

/-- The bytes that frame a head: CR, LF, and the space and the slash of its first line. -/
def cr : UInt8 := 13
@[inherit_doc cr] def lf : UInt8 := 10
@[inherit_doc cr] def space : UInt8 := 32
@[inherit_doc cr] def slash : UInt8 := 47

/-- The pieces between line ends, each of which is CR and LF together. -/
def lines : List UInt8 → List (List UInt8)
  | [] => [[]]
  | [b] => [[b]]
  | b :: c :: s =>
    if b = cr ∧ c = lf then [] :: lines s
    else match lines (c :: s) with
      | [] => [[b]]
      | line :: later => (b :: line) :: later

def field? (name : String) (line : List UInt8) : Option String :=
  let label := Utf8.encode name
  if label.isPrefixOf line then Utf8.decode? (line.drop label.length) else none

def requestLine? (line : List UInt8) : Option (Method × String) :=
  match splitAt (· == space) line with
  | [name, first :: path, version] =>
    if first = slash ∧ version = Utf8.encode "HTTP/1.0" then do
      let method ← Method.all.find? (Utf8.encode ·.name == name)
      return (method, ← Utf8.decode? path)
    else none
  | _ => none

/-- Reads a request head: the request line, the host, the token if there is one, and an empty
line. -/
def decode? (bytes : List UInt8) : Option Head :=
  match lines bytes with
  | [first, second, [], []] => do
    let (method, path) ← requestLine? first
    return ⟨method, path, ← field? "Host: " second, none⟩
  | [first, second, third, [], []] => do
    let (method, path) ← requestLine? first
    return ⟨method, path, ← field? "Host: " second, some (← field? "Authorization: " third)⟩
  | _ => none

end Liveness.Request
