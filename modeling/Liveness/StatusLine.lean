import Liveness.Probe.Error
import Liveness.Text.Utf8

/-! The first line of an answer. -/
namespace Liveness
open Text

/-- A status line without its line end. -/
structure StatusLine where
  text : String
deriving DecidableEq, Repr

namespace StatusLine

def isLineEnd (c : Char) : Bool := c == '\r' || c == '\n'

def ofBytes (bytes : List UInt8) : Except StatusFault StatusLine :=
  if bytes.isEmpty then .error .closed
  else match Utf8.decode? bytes with
    | none => .error .notUtf8
    | some s =>
      let line := dropEnd isLineEnd s.toList
      if "HTTP/".toList.isPrefixOf line then .ok ⟨String.ofList line⟩
      else .error (.unexpected (String.ofList line))

/-- The number in second place, for logs only. -/
def code? (line : StatusLine) : Option Nat :=
  (words line.text.toList)[1]?.bind fun w => (readNumeral max16 w).toOption

end StatusLine
end Liveness
