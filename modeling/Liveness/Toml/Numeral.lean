import Liveness.Decimal.Binary64
import Liveness.Text.Numeral
import Liveness.Toml.Layout

/-! Numbers, dates and times of configuration documents. -/
namespace Liveness.Toml
open Text

/-- A run of digits, between which single underscores may stand, and what follows it. -/
def digitRun (radix : Nat) : List Char → List Nat × List Char
  | [] => ([], [])
  | '_' :: c :: s =>
    match digit? radix c with
    | some d => let (ds, rest) := digitRun radix s; (d :: ds, rest)
    | none => ([], '_' :: c :: s)
  | c :: s =>
    match digit? radix c with
    | some d => let (ds, rest) := digitRun radix s; (d :: ds, rest)
    | none => ([], c :: s)

def digits? (radix : Nat) (s : List Char) : Option (List Nat × List Char) :=
  if s.head? = some '_' then none
  else
    let (ds, rest) := digitRun radix s
    if ds.isEmpty then none else some (ds, rest)

def sign : List Char → Bool × List Char
  | '-' :: s => (true, s)
  | '+' :: s => (false, s)
  | s => (false, s)

inductive Number where
  | integer (n : Int)
  | real (x : Binary64)
deriving DecidableEq, Repr

/-- An integer in the 64-bit range. -/
def Number.ofInt? (n : Int) : Option Number :=
  if -0x8000000000000000 ≤ n ∧ n < 0x8000000000000000 then some (.integer n) else none

/-- A positive integer after `0x`, `0o` or `0b`. -/
def radixNumber? (radix : Nat) (s : List Char) : Option (Number × List Char) := do
  let (ds, rest) ← digits? radix s
  let n ← Number.ofInt? (ofDigits radix ds)
  return (n, rest)

def fraction? : List Char → Option (List Nat × List Char)
  | '.' :: s => digits? 10 s
  | s => some ([], s)

def exponent? (s : List Char) : Option (Int × List Char) :=
  match s with
  | c :: s' =>
    if c = 'e' ∨ c = 'E' then do
      let (negative, s') := sign s'
      let (ds, rest) ← digits? 10 s'
      return (if negative then -(ofDigits 10 ds : Int) else ofDigits 10 ds, rest)
    else some (0, s)
  | [] => some (0, [])

/-- A decimal number behind its sign. A fraction or an exponent makes it a real one, which must not
exceed every finite number. -/
def decimalNumber? (negative : Bool) (s : List Char) : Option (Number × List Char) := do
  let (whole, rest) ← digits? 10 s
  if whole.head? = some 0 ∧ whole.length ≠ 1 then none else
  let (part, after) ← fraction? rest
  let (exponent, after) ← exponent? after
  if after.length = rest.length then
    let n ← Number.ofInt? (if negative then -(ofDigits 10 whole : Int) else ofDigits 10 whole)
    return (n, after)
  else
    let x := Binary64.ofDecimal negative (ofDigits 10 (whole ++ part)) (exponent - part.length)
    if x = .infinite false then none else return (.real x, after)

def number? (s : List Char) : Option (Number × List Char) :=
  match s with
  | '0' :: 'x' :: s => radixNumber? 16 s
  | '0' :: 'o' :: s => radixNumber? 8 s
  | '0' :: 'b' :: s => radixNumber? 2 s
  | s =>
    match sign s with
    | (negative, 'i' :: 'n' :: 'f' :: rest) => some (.real (.infinite negative), rest)
    | (_, 'n' :: 'a' :: 'n' :: rest) => some (.real .nan, rest)
    | (negative, s) => decimalNumber? negative s

/-- A number of exactly `count` digits, within bounds. -/
def fixedDigits? (count low high : Nat) (s : List Char) : Option (Nat × List Char) :=
  let ds := (s.take count).filterMap (digit? 10)
  let n := ofDigits 10 ds
  if ds.length = count ∧ low ≤ n ∧ n ≤ high then some (n, s.drop count) else none

def expect? (c : Char) : List Char → Option (List Char)
  | [] => none
  | a :: s => if a = c then some s else none

def isLeapYear (year : Nat) : Bool := year % 4 == 0 && (year % 100 != 0 || year % 400 == 0)

def daysOfMonth (year month : Nat) : Nat :=
  if month = 2 then if isLeapYear year then 29 else 28
  else if month ∈ [4, 6, 9, 11] then 30
  else 31

def date? (s : List Char) : Option (List Char) := do
  let (year, s) ← fixedDigits? 4 0 9999 s
  let s ← expect? '-' s
  let (month, s) ← fixedDigits? 2 1 12 s
  let s ← expect? '-' s
  let (_, s) ← fixedDigits? 2 1 (daysOfMonth year month) s
  return s

def time? (s : List Char) : Option (List Char) := do
  let (_, s) ← fixedDigits? 2 0 23 s
  let s ← expect? ':' s
  let (_, s) ← fixedDigits? 2 0 59 s
  let s ← expect? ':' s
  let (_, s) ← fixedDigits? 2 0 60 s
  match s with
  | '.' :: after =>
    if (after.takeWhile Char.isDigit).isEmpty then return s else return after.dropWhile Char.isDigit
  | s => return s

/-- What follows the distance of a local time from universal time, if one is given. -/
def offset (s : List Char) : List Char :=
  match s with
  | 'Z' :: rest | 'z' :: rest => rest
  | c :: rest =>
    if c = '+' ∨ c = '-' then
      ((do
        let (_, rest) ← fixedDigits? 2 0 23 rest
        let rest ← expect? ':' rest
        let (_, rest) ← fixedDigits? 2 0 59 rest
        return rest) : Option (List Char)).getD s
    else s
  | [] => []

def moment? (s : List Char) : Option (List Char) :=
  match date? s with
  | none => time? s
  | some rest =>
    match rest with
    | c :: after =>
      if c = 'T' ∨ c = 't' ∨ c = ' ' then some (((time? after).map offset).getD rest) else some rest
    | [] => some []

end Liveness.Toml
