import Liveness.Text.Utf8

/-! Plain text: what is left of a text that would drive a terminal. Control sequences are dropped
with all that they hold, and so are control characters other than white space. -/
namespace Liveness.Text

/-- How far a control sequence has been read, by its last turn. -/
inductive ControlSequence where
  /-- It has begun with an escape character. -/
  | escape
  /-- A final character is to come. -/
  | intermediate
  /-- Parameters, and then a letter. -/
  | parameters
  /-- A command of the operating system, up to a bell. -/
  | command
  /-- The parameters of a device's string, and then a letter. -/
  | device
  /-- A string, up to its terminator. -/
  | string
deriving DecidableEq, Repr

/-- The white space among the control characters of ASCII. -/
def isLayout (c : Char) : Bool := c == '\t' || c == '\n' || c == '\x0C' || c == '\r'

def isPlain (c : Char) : Bool := isLayout c || (0x20 ≤ c.toNat && c.toNat ≠ 0x7F)

namespace ControlSequence

/-- A string ends at a character with this byte. -/
def terminator : UInt8 := 0x9C

/-- A sequence after one more character; `none` once it has ended. An escape character begins
another one. -/
def next? (s : ControlSequence) (c : Char) : Option ControlSequence :=
  if c = '\x1B' then some .escape
  else if c = '\x18' ∨ c = '\x1A' then none
  else match s with
    | .escape =>
      if c = '[' then some .parameters
      else if c = ']' then some .command
      else if c = 'P' then some .device
      else if c = 'X' ∨ c = '^' ∨ c = '_' then some .string
      else if '0' ≤ c ∧ c ≤ '~' then none
      else if ' ' ≤ c ∧ c ≤ '/' then some .intermediate
      else some .escape
    | .intermediate => if '0' ≤ c ∧ c ≤ '~' then none else some .intermediate
    | .parameters => if '@' ≤ c ∧ c ≤ '~' then none else some .parameters
    | .command => if c = '\x07' then none else some .command
    | .device => if '@' ≤ c ∧ c ≤ '~' then some .string else some .device
    | .string => if (Utf8.encode c.toString).contains terminator then none else some .string

/-- Layout is shown even where it interrupts a sequence, unless it belongs to a string. -/
def shows : ControlSequence → Char → Bool
  | .escape, c | .intermediate, c | .parameters, c => isLayout c
  | .command, _ | .device, _ | .string, _ => false

end ControlSequence

/-- Whether characters are shown. Those behind layout that has interrupted a sequence are; the next
control character resumes the sequence, unless a character beyond ASCII has ended it. -/
inductive Reading where
  | shown (interrupted : Option ControlSequence)
  | passed (s : ControlSequence)
deriving DecidableEq, Repr

namespace Reading

def ofNext : Option ControlSequence → Reading
  | none => .shown none
  | some s => .passed s

/-- After one more character: how to go on, and whether the character itself is shown. -/
def step : Reading → Char → Reading × Bool
  | .passed s, c => if s.shows c then (.shown (some s), true) else (ofNext (s.next? c), false)
  | .shown interrupted, c =>
    if isPlain c then (.shown (if c.toNat < 0x80 then interrupted else none), true)
    else match interrupted with
      | some s => (ofNext (s.next? c), false)
      | none => (if c = '\x1B' then .passed .escape else .shown none, false)

def plain : Reading → List Char → List Char
  | _, [] => []
  | r, c :: s =>
    let (r, isShown) := r.step c
    if isShown then c :: plain r s else plain r s

end Reading

/-- A text without control sequences and control characters. -/
def plain (s : String) : String := String.ofList ((Reading.shown none).plain s.toList)

theorem ControlSequence.isLayout_of_shows {s : ControlSequence} {c : Char} (h : s.shows c = true) :
    isLayout c = true := by
  cases s <;> simp_all [shows]

theorem Reading.isPlain_of_step {r : Reading} {c : Char} (h : (r.step c).2 = true) :
    isPlain c = true := by
  cases r with
  | passed s =>
    simp only [step] at h
    split at h
    · next hs => simp [isPlain, ControlSequence.isLayout_of_shows hs]
    · simp at h
  | shown interrupted =>
    simp only [step] at h
    split at h
    · assumption
    · split at h <;> simp at h

/-- Nothing but plain characters is shown. -/
theorem Reading.isPlain_of_mem {r : Reading} {s : List Char} {c : Char} (h : c ∈ r.plain s) :
    isPlain c = true := by
  induction s generalizing r with
  | nil => simp [Reading.plain] at h
  | cons d s ih =>
    simp only [Reading.plain] at h
    split at h
    · next hd =>
      rcases List.mem_cons.1 h with rfl | h
      · exact isPlain_of_step hd
      · exact ih h
    · exact ih h

/-- A text of plain characters is shown as it is. -/
theorem Reading.plain_of_all {s : List Char} (h : s.all isPlain = true) :
    (Reading.shown none).plain s = s := by
  induction s with
  | nil => rfl
  | cons c s ih =>
    simp only [List.all_cons, Bool.and_eq_true] at h
    simp [Reading.plain, Reading.step, h.1, ih h.2]

end Liveness.Text
