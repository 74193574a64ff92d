import Liveness.Text.Numeral
import Liveness.Toml.Layout

/-! Quoted texts of configuration documents: four forms, by the mark, and by whether one mark or
three in a row stand around the text. -/
namespace Liveness.Toml

/-- A form of quoted text. A literal one has no escapes; a long one may hold line breaks. -/
structure TextForm where
  literal : Bool
  long : Bool
deriving DecidableEq, Repr

namespace TextForm

def mark (form : TextForm) : Char := if form.literal then '\'' else '"'

def marks (form : TextForm) : List Char := List.replicate (if form.long then 3 else 1) form.mark

end TextForm

inductive Place where
  /-- In the text. -/
  | inside
  /-- Behind a backslash. -/
  | escape
  /-- In the number of a character, of which some digits are owed. -/
  | number (owed value : Nat)
  /-- Behind a carriage return that begins a line break. -/
  | halfBreak (kept : Bool)
  /-- Between a backslash and the line break that it removes. -/
  | beforeBreak
  /-- Behind a removed line break, where blank space is removed too. -/
  | afterBreak
deriving DecidableEq, Repr

def escaped? : Char → Option Char
  | 'b' => some '\x08'
  | 't' => some '\t'
  | 'n' => some '\n'
  | 'f' => some '\x0C'
  | 'r' => some '\r'
  | '"' => some '"'
  | '\\' => some '\\'
  | _ => none

def charOfNumber? (n : Nat) : Option Char :=
  if n < 0xD800 ∨ (0xE000 ≤ n ∧ n < 0x110000) then some (Char.ofNat n) else none

/-- What one character other than a closing mark contributes, and where it leads. -/
def TextForm.step (form : TextForm) : Place → Char → Option (List Char × Place)
  | .escape, c =>
    match escaped? c with
    | some e => some ([e], .inside)
    | none =>
      if c = 'u' then some ([], .number 4 0)
      else if c = 'U' then some ([], .number 8 0)
      else if !form.long then none
      else if c = '\n' then some ([], .afterBreak)
      else if c = '\r' then some ([], .halfBreak false)
      else if isSpace c then some ([], .beforeBreak)
      else none
  | .number owed value, c =>
    match Text.digit? 16 c with
    | none => none
    | some d =>
      let value := value * 16 + d
      if owed ≤ 1 then (charOfNumber? value).map ([·], .inside)
      else some ([], .number (owed - 1) value)
  | .halfBreak kept, c =>
    if c = '\n' then some (if kept then (['\n'], .inside) else ([], .afterBreak)) else none
  | .beforeBreak, c =>
    if c = '\n' then some ([], .afterBreak)
    else if c = '\r' then some ([], .halfBreak false)
    else if isSpace c then some ([], .beforeBreak)
    else none
  | place, c =>
    if place = .afterBreak ∧ (isSpace c ∨ c = '\n') then some ([], .afterBreak)
    else if place = .afterBreak ∧ c = '\r' then some ([], .halfBreak false)
    else if c = '\\' ∧ !form.literal then some ([], .escape)
    else if isPlain c then some ([c], .inside)
    else if !form.long then none
    else if c = '\n' then some (['\n'], .inside)
    else if c = '\r' then some ([], .halfBreak true)
    else none

/-- Behind a first mark: the marks that still belong to the text, and what follows the text, if the
text ends here. A long text ends at three marks, and up to two before them belong to it. -/
def TextForm.close? (form : TextForm) (s : List Char) : Option (List Char × List Char) :=
  if form.long then
    let more := (s.takeWhile (· == form.mark)).length
    if more < 2 then none
    else
      let kept := min (more - 2) 2
      some (List.replicate kept form.mark, s.drop (kept + 2))
  else some ([], s)

def TextForm.body (form : TextForm) : Place → List Char → Option (List Char × List Char)
  | _, [] => none
  | place, c :: s =>
    if c = form.mark ∧ (place = .inside ∨ place = .afterBreak) then
      match form.close? s with
      | some ended => some ended
      | none => (body form .inside s).map fun (text, rest) => (c :: text, rest)
    else
      match form.step place c with
      | none => none
      | some (out, place) => (body form place s).map fun (text, rest) => (out ++ text, rest)

/-- A text in one of the given forms, of which the first that fits counts. A line break right
behind the opening marks of a long text does not belong to it. -/
def quotedText? (forms : List TextForm) (s : List Char) : Option (String × List Char) :=
  match forms.find? (·.marks.isPrefixOf s) with
  | none => none
  | some form =>
    let s := s.drop form.marks.length
    let s := if form.long then (lineBreak? s).getD s else s
    (form.body .inside s).map fun (text, rest) => (String.ofList text, rest)

def shortForms : List TextForm := [⟨false, false⟩, ⟨true, false⟩]

def allForms : List TextForm := [⟨false, true⟩, ⟨true, true⟩] ++ shortForms

end Liveness.Toml
