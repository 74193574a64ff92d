/-! UTF-8: text as bytes, and bytes as text with or without tolerance for invalid stretches. -/
namespace Liveness.Text.Utf8

def encode (s : String) : List UInt8 := s.toList.flatMap String.utf8EncodeChar

/-- A character of which some bytes have been read: the bits so far, how many bytes are owed,
and the range of the next one. -/
structure Pending where
  bits : Nat
  owed : Nat
  low : Nat
  high : Nat
deriving DecidableEq, Repr

/-- What a first byte begins. The narrowed ranges exclude overlong forms, surrogates, and
numbers above U+10FFFF. -/
def Pending.start? (b : Nat) : Option Pending :=
  if b < 0x80 then some ⟨b, 0, 0x80, 0xBF⟩
  else if b < 0xC2 then none
  else if b < 0xE0 then some ⟨b - 0xC0, 1, 0x80, 0xBF⟩
  else if b = 0xE0 then some ⟨0, 2, 0xA0, 0xBF⟩
  else if b = 0xED then some ⟨0xD, 2, 0x80, 0x9F⟩
  else if b < 0xF0 then some ⟨b - 0xE0, 2, 0x80, 0xBF⟩
  else if b = 0xF0 then some ⟨0, 3, 0x90, 0xBF⟩
  else if b < 0xF4 then some ⟨b - 0xF0, 3, 0x80, 0xBF⟩
  else if b = 0xF4 then some ⟨4, 3, 0x80, 0x8F⟩
  else none

def Pending.push? (p : Pending) (b : Nat) : Option Pending :=
  if p.low ≤ b ∧ b ≤ p.high then some ⟨p.bits * 64 + (b - 0x80), p.owed - 1, 0x80, 0xBF⟩ else none

/-- What a byte completes between characters, and what it leaves pending. `none` stands for a
byte that begins no character. -/
def begin (b : Nat) : List (Option Char) × Option Pending :=
  match Pending.start? b with
  | none => ([none], none)
  | some p => if p.owed = 0 then ([some (Char.ofNat p.bits)], none) else ([], some p)

/-- What a byte completes, and what it leaves pending. A byte out of range ends the pending
stretch as invalid and begins anew. -/
def advance : Option Pending → Nat → List (Option Char) × Option Pending
  | none, b => begin b
  | some p, b =>
    match p.push? b with
    | none => let (out, next) := begin b; (none :: out, next)
    | some q => if q.owed = 0 then ([some (Char.ofNat q.bits)], none) else ([], some q)

/-- The characters of a byte string in order; `none` stands for a stretch that begins a character
and cannot end it, as long as can be. -/
def pieces : Option Pending → List UInt8 → List (Option Char)
  | none, [] => []
  | some _, [] => [none]
  | p, b :: bs => let (out, next) := advance p b.toNat; out ++ pieces next bs

def decode? (bs : List UInt8) : Option String :=
  let cs := pieces none bs
  if cs.all Option.isSome then some (String.ofList (cs.filterMap id)) else none

/-- The text of any bytes, with U+FFFD for each invalid stretch. -/
def decodeLossy (bs : List UInt8) : String :=
  String.ofList ((pieces none bs).map (·.getD '\uFFFD'))

@[simp] theorem decode?_nil : decode? [] = some "" := by decide

/-- On valid bytes tolerance changes nothing. -/
theorem decodeLossy_of_decode? {bs : List UInt8} {s : String} (h : decode? bs = some s) :
    decodeLossy bs = s := by
  simp only [decode?, Option.ite_none_right_eq_some, Option.some.injEq] at h
  obtain ⟨hall, rfl⟩ := h
  have key : ∀ cs : List (Option Char), cs.all Option.isSome → 
      cs.map (·.getD '\uFFFD') = cs.filterMap id := by
    intro cs hcs
    induction cs with
    | nil => rfl
    | cons c cs ih => cases c <;> simp_all
  rw [decodeLossy, key _ hall]

end Liveness.Text.Utf8
