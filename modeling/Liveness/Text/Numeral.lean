/-! Decimal numerals of bounded unsigned numbers: an optional plus sign, then digits. -/
namespace Liveness.Text

inductive NumeralError where
  | empty
  | invalidDigit
  | tooLarge
deriving DecidableEq, Repr

def NumeralError.message : NumeralError → String
  | .empty => "cannot parse integer from empty string"
  | .invalidDigit => "invalid digit found in string"
  | .tooLarge => "number too large to fit in target type"

/-- The value of a digit below `radix`, letters standing for the digits from ten on. -/
def digit? (radix : Nat) (c : Char) : Option Nat :=
  let n := c.toNat
  let d? :=
    if 0x30 ≤ n && n ≤ 0x39 then some (n - 0x30)
    else if 0x61 ≤ n && n ≤ 0x7A then some (n - 0x61 + 10)
    else if 0x41 ≤ n && n ≤ 0x5A then some (n - 0x41 + 10)
    else none
  d?.filter (· < radix)

theorem digit?_of_isDigit {c : Char} (h : c.isDigit) :
    digit? 10 c = some (c.toNat - 0x30) ∧ c.toNat - 0x30 ≤ 9 := by
  rw [Char.isDigit, Bool.and_eq_true, decide_eq_true_eq, decide_eq_true_eq] at h
  have hlow : 0x30 ≤ c.toNat := h.1
  have hhigh : c.toNat ≤ 0x39 := h.2
  constructor
  · simp only [digit?, hlow, hhigh, decide_true, Bool.and_self, if_true, Option.filter_some]
    rw [if_pos]
    exact decide_eq_true (by omega)
  · omega

def ofDigits (radix : Nat) (ds : List Nat) : Nat := ds.foldl (fun n d => n * radix + d) 0

/-- Digits read on from `value`. The first fault counts: a digit that leads above `max`, or a
character that is no digit. -/
def readDigits (radix max : Nat) : Nat → List Char → Except NumeralError Nat
  | value, [] => .ok value
  | value, c :: s =>
    match digit? radix c with
    | none => .error .invalidDigit
    | some d =>
      let next := value * radix + d
      if next ≤ max then readDigits radix max next s else .error .tooLarge

/-- The number that a decimal numeral denotes, none above `max`. Leading zeros are free. -/
def readNumeral (max : Nat) : List Char → Except NumeralError Nat
  | [] => .error .empty
  | ['+'] => .error .invalidDigit
  | '+' :: s => readDigits 10 max 0 s
  | s => readDigits 10 max 0 s

/-- The number that a signed decimal numeral denotes, within the 64-bit range. -/
def readInteger (s : List Char) : Except NumeralError Int :=
  match s with
  | '-' :: [] => .error .invalidDigit
  | '-' :: s => (readDigits 10 0x8000000000000000 0 s).map fun n => -(n : Int)
  | s => (readNumeral 0x7FFFFFFFFFFFFFFF s).map fun n => (n : Int)

/-- The largest numbers of 16, 32 and 64 bits. -/
def max16 : Nat := 0xFFFF
@[inherit_doc max16] def max32 : Nat := 0xFFFFFFFF
@[inherit_doc max16] def max64 : Nat := 0xFFFFFFFFFFFFFFFF

theorem readDigits_le {radix max value n : Nat} {s : List Char} (hv : value ≤ max)
    (h : readDigits radix max value s = .ok n) : n ≤ max := by
  induction s generalizing value with
  | nil => simp only [readDigits, Except.ok.injEq] at h; omega
  | cons c s ih =>
    simp only [readDigits] at h
    split at h
    · simp at h
    · split at h
      · exact ih ‹_› h
      · simp at h

theorem readNumeral_le {max n : Nat} {s : List Char} (h : readNumeral max s = .ok n) :
    n ≤ max := by
  unfold readNumeral at h
  split at h
  · simp at h
  · simp at h
  · exact readDigits_le (Nat.zero_le _) h
  · exact readDigits_le (Nat.zero_le _) h

end Liveness.Text
