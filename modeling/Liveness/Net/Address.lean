import Liveness.Text.Basic
import Liveness.Text.Numeral

/-! Internet addresses: their canonical text and its reading. -/
namespace Liveness.Net
open Text

/-- An address of version 4 as a 32-bit word, or of version 6 as eight 16-bit groups. -/
inductive Ip where
  | v4 (word : UInt32)
  | v6 (groups : Vector UInt16 8)
deriving DecidableEq, Repr

/-- An address and a port. A zone tells apart the links that one address of version 6 may be on;
zero is none of them. -/
structure SocketAddress where
  ip : Ip
  port : UInt16
  zone : UInt32 := 0
deriving DecidableEq, Repr

def dotted (word : UInt32) : String :=
  let n := word.toNat
  ".".intercalate ([n / 0x1000000, n / 0x10000 % 256, n / 256 % 256, n % 256].map toString)

/-- Each run of zero groups: where it starts and how long it is. -/
def zeroRuns (i : Nat) : List UInt16 → List (Nat × Nat)
  | [] => []
  | g :: gs =>
    let runs := zeroRuns (i + 1) gs
    if g ≠ 0 then runs
    else match runs with
      | (j, n) :: later => if j = i + 1 then (i, n + 1) :: later else (i, 1) :: runs
      | [] => [(i, 1)]

/-- The first longest run of at least two zero groups. -/
def compressible? (groups : List UInt16) : Option (Nat × Nat) :=
  let best := (zeroRuns 0 groups).foldl (fun b r => if b.2 < r.2 then r else b) (0, 1)
  if 1 < best.2 then some best else none

def colons (groups : List UInt16) : String :=
  ":".intercalate (groups.map fun g => String.ofList (Nat.toDigits 16 g.toNat))

def Ip.text : Ip → String
  | .v4 word => dotted word
  | .v6 groups =>
    let gs := groups.toList
    match gs with
    | [0, 0, 0, 0, 0, 0xFFFF, high, low] =>
      "::ffff:" ++ dotted (UInt32.ofNat (high.toNat * 0x10000 + low.toNat))
    | _ =>
      match compressible? gs with
      | none => colons gs
      | some (i, n) => colons (gs.take i) ++ "::" ++ colons (gs.drop (i + n))

def SocketAddress.text (a : SocketAddress) : String :=
  match a.ip with
  | .v4 _ => a.ip.text ++ ":" ++ toString a.port.toNat
  | .v6 _ =>
    let zone := if a.zone = 0 then "" else "%" ++ toString a.zone.toNat
    "[" ++ a.ip.text ++ zone ++ "]:" ++ toString a.port.toNat

/-- One byte of a dotted quad: up to three digits without a leading zero. -/
def readByte? (s : List Char) : Option Nat :=
  if s.length ≤ 3 ∧ (s.head? ≠ some '0' ∨ s.length = 1) ∧ s.all Char.isDigit then
    (readNumeral 255 s).toOption
  else none

/-- A word from its bytes, the highest first. -/
def wordOfBytes (bytes : List Nat) : UInt32 :=
  UInt32.ofNat (bytes.foldl (fun w b => w * 256 + b) 0)

def readDotted? (s : List Char) : Option UInt32 :=
  let parts := splitAt (· == '.') s
  if parts.length = 4 then (parts.mapM readByte?).map wordOfBytes else none

/-- One group: up to four hexadecimal digits. -/
def readGroup? (s : List Char) : Option UInt16 :=
  if s.isEmpty ∨ 4 < s.length then none
  else (readDigits 16 max16 0 s).toOption.map UInt16.ofNat

/-- Groups between colons; the last piece may be a dotted quad, which counts as two groups. -/
def readGroups? (dottedEnd : Bool) (s : List Char) : Option (List UInt16) :=
  if s.isEmpty then some [] else
  let parts := splitAt (· == ':') s
  let last := parts.getLast?.getD []
  match if dottedEnd then readDotted? last else none with
  | some word =>
    (parts.dropLast.mapM readGroup?).map
      (· ++ [UInt16.ofNat (word.toNat / 0x10000), UInt16.ofNat (word.toNat % 0x10000)])
  | none => parts.mapM readGroup?

/-- Groups where `::` stands for at least one zero group. -/
def readCompressed? (s : List Char) : Option (List UInt16) :=
  match cut? "::".toList s with
  | none => readGroups? true s
  | some (before, after) => do
    let head ← readGroups? false before
    let tail ← readGroups? true after
    if head.length + tail.length ≤ 7 then
      some (head ++ List.replicate (8 - head.length - tail.length) 0 ++ tail)
    else none

def readColons? (s : List Char) : Option Ip := do
  let groups ← readCompressed? s
  if h : groups.toArray.size = 8 then some (.v6 ⟨groups.toArray, h⟩) else none

/-- The address that a canonical dotted quad or a version 6 literal denotes. -/
def Ip.ofText? (s : List Char) : Option Ip :=
  match readDotted? s with
  | some word => some (.v4 word)
  | none => readColons? s

/-- Decimal digits, at least one, that denote a number up to `max`. -/
def readCount? (max : Nat) (digits : List Char) : Option Nat :=
  if digits.isEmpty then none else (readDigits 10 max 0 digits).toOption

/-- A version 6 literal; a percent sign comes before the number of its zone. -/
def readZoned? (s : List Char) : Option (Ip × UInt32) :=
  match cut? ['%'] s with
  | none => (readColons? s).map (·, 0)
  | some (before, digits) => do
    return (← readColons? before, UInt32.ofNat (← readCount? max32 digits))

/-- An address and a port between which a colon stands; version 6 is in brackets. -/
def SocketAddress.ofText? (s : List Char) : Option SocketAddress := do
  let (before, digits) ← cutLast? ':' s
  let port := UInt16.ofNat (← readCount? max16 digits)
  match before with
  | '[' :: inner =>
    if inner.getLast? = some ']' then
      (readZoned? inner.dropLast).map fun (ip, zone) => ⟨ip, port, zone⟩
    else none
  | _ => (readDotted? before).map fun word => ⟨.v4 word, port, 0⟩

end Liveness.Net
