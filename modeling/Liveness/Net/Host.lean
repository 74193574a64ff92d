import Liveness.Net.Address

/-! Host names: the numeric forms that denote an address of their own, and the names that a TLS
handshake can carry. -/
namespace Liveness.Net
open Text

/-- One part of a numeric host: decimal, hexadecimal after `0x`, octal after `0`. -/
def readPart? (s : List Char) : Option Nat :=
  match s with
  | [] => none
  | '0' :: 'x' :: d :: ds | '0' :: 'X' :: d :: ds => (readDigits 16 max32 0 (d :: ds)).toOption
  | '0' :: ds => (readDigits 8 max32 0 ds).toOption
  | ds => (readDigits 10 max32 0 ds).toOption

/-- Every part but the last is one byte; the last fills the bytes that remain. -/
def joinParts? (parts : List Nat) : Option UInt32 :=
  match parts.getLast? with
  | none => none
  | some last =>
    let bytes := parts.dropLast
    let room := Nat.pow 256 (4 - bytes.length)
    if bytes.length ≤ 3 ∧ bytes.all (· ≤ 255) ∧ last < room then
      some (UInt32.ofNat (bytes.foldl (fun w b => w * 256 + b) 0 * room + last))
    else none

/-- The address that a numeric host of one to four parts denotes. A canonical dotted quad comes
first: it has no octal parts. -/
def numericHost? (host : List Char) : Option Ip :=
  match readDotted? host with
  | some word => some (.v4 word)
  | none => ((splitAt (· == '.') host).mapM readPart?).bind joinParts? |>.map .v4

/-- A label of a name: 1 to 63 letters, digits, hyphens and underscores, no hyphen at an end. -/
def isLabel (s : List Char) : Bool :=
  0 < s.length && s.length ≤ 63 && s.all (fun c => c.isAlphanum || c == '-' || c == '_') &&
    s.head? != some '-' && s.getLast? != some '-'

/-- A name of at most 253 characters whose labels are joined by dots, the last of them not a
number; one more dot may follow. -/
def isDnsName (s : List Char) : Bool :=
  let labels := splitAt (· == '.') (if s.getLast? = some '.' then s.dropLast else s)
  s.length ≤ 253 && labels.all isLabel && !(labels.getLast?.getD []).all Char.isDigit

/-- A TLS handshake can name this host: it is an address literal or a domain name. -/
def isServerName (host : String) : Bool :=
  (Ip.ofText? host.toList).isSome || isDnsName host.toList

end Liveness.Net
