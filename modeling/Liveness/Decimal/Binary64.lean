/-! Binary floating-point numbers of 64 bits, in exact arithmetic: the nearest one to a decimal, and
the fewest digits that read back as it. -/
namespace Liveness

/-- Not a number, an infinity, or `± mantissa · 2 ^ exponent`. -/
inductive Binary64 where
  | nan
  | infinite (negative : Bool)
  | finite (negative : Bool) (mantissa : Nat) (exponent : Int)
deriving DecidableEq, Repr

namespace Binary64

def leastExponent : Int := -1074

def greatestExponent : Int := 971

def precision : Nat := 53

def zero (negative : Bool) : Binary64 := .finite negative 0 leastExponent

/-- The integer nearest to `num / den`; a half goes to the even neighbour. -/
def roundEven (num den : Nat) : Nat :=
  let k := num / den
  let r := num % den
  if 2 * r < den then k else if den < 2 * r then k + 1 else k + k % 2

/-- The value nearest to the positive ratio `num / den`. -/
def ofRatio (negative : Bool) (num den : Nat) : Binary64 :=
  let k : Int := (num.log2 : Int) - den.log2
  let below := num * Nat.pow 2 (-k).toNat < den * Nat.pow 2 k.toNat
  let top := if below then k - 1 else k
  let q := max (top - (precision - 1 : Nat)) leastExponent
  let m := roundEven (num * Nat.pow 2 (-q).toNat) (den * Nat.pow 2 q.toNat)
  let (m, q) := if m = Nat.pow 2 precision then (Nat.pow 2 (precision - 1), q + 1) else (m, q)
  if greatestExponent < q then .infinite negative else .finite negative m q

/-- The value nearest to `digits · 10 ^ exponent`. Exponents far outside the range are decided
without computing the power. -/
def ofDecimal (negative : Bool) (digits : Nat) (exponent : Int) : Binary64 :=
  let magnitude : Int := (Nat.toDigits 10 digits).length + exponent
  if digits = 0 then zero negative
  else if 310 < magnitude then .infinite negative
  else if magnitude < -330 then zero negative
  else ofRatio negative (digits * Nat.pow 10 exponent.toNat) (Nat.pow 10 (-exponent).toNat)

/-- The `k` with `10 ^ k ≤ num / den < 10 ^ (k + 1)`, for a positive ratio. -/
def decade (num den : Nat) : Int :=
  if den ≤ num then ((Nat.toDigits 10 (num / den)).length : Int) - 1
  else -((Nat.toDigits 10 ((den + num - 1) / num - 1)).length : Int)

/-- The multiple of `10 ^ p` that reads back as `m · 2 ^ q`, if there is one: of two the nearer,
of two as near the greater. -/
def onGrid? (m : Nat) (q p : Int) : Option Nat :=
  let up := Nat.pow 2 (q - 2).toNat * Nat.pow 10 (-p).toNat
  let unit := Nat.pow 2 (2 - q).toNat * Nat.pow 10 p.toNat
  let lowest := m = Nat.pow 2 (precision - 1) ∧ leastExponent < q
  let low := (if lowest then 4 * m - 1 else 4 * m - 2) * up
  let mid := 4 * m * up
  let high := (4 * m + 2) * up
  let a := mid / unit
  let fits (n : Nat) : Bool :=
    if m % 2 = 0 then low ≤ n * unit && n * unit ≤ high else low < n * unit && n * unit < high
  match fits a, fits (a + 1) with
  | true, true => some (if 2 * (mid % unit) < unit then a else a + 1)
  | true, false => some a
  | false, true => some (a + 1)
  | false, false => none

/-- The fewest digits that read back as `m · 2 ^ q`, and the exponent of the last of them. -/
def shortest (m : Nat) (q : Int) : Nat × Int :=
  let k := decade (m * Nat.pow 2 q.toNat) (Nat.pow 2 (-q).toNat)
  let found := (List.range 17).findSome? fun (n : Nat) =>
    let p := k - n
    (onGrid? m q p).map (·, p)
  found.getD (m, q)

/-- `digits · 10 ^ exponent` without an exponent and without trailing zeros after the point. -/
def positional (digits : Nat) (exponent : Int) : List Char :=
  let ds := Nat.toDigits 10 digits
  let kept := (ds.reverse.dropWhile (· == '0')).reverse
  let exponent := exponent + (ds.length - kept.length : Nat)
  if 0 ≤ exponent then kept ++ List.replicate exponent.toNat '0'
  else
    let after := (-exponent).toNat
    if after < kept.length then
      kept.take (kept.length - after) ++ '.' :: kept.drop (kept.length - after)
    else '0' :: '.' :: List.replicate (after - kept.length) '0' ++ kept

def text : Binary64 → String
  | .nan => "NaN"
  | .infinite negative => if negative then "-inf" else "inf"
  | .finite negative m q =>
    let magnitude := if m = 0 then ['0'] else
      let (digits, exponent) := shortest m q
      positional digits exponent
    String.ofList (if negative then '-' :: magnitude else magnitude)

end Binary64
end Liveness
