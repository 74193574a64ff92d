import Liveness.Text.Hidden

/-! Quoted text: between its marks, control characters and the mark itself are escaped, and hidden
characters are shown by number. -/
namespace Liveness.Text

/-- A character by its number, as in `\u{e9}`. -/
def numbered (c : Char) : List Char :=
  ['\\', 'u', '\x7b'] ++ Nat.toDigits 16 c.toNat ++ ['\x7d']

def shown (mark c : Char) : List Char :=
  if c = '\x00' then ['\\', '0']
  else if c = '\t' then ['\\', 't']
  else if c = '\n' then ['\\', 'n']
  else if c = '\r' then ['\\', 'r']
  else if c = '\\' ∨ c = mark then ['\\', c]
  else if isHidden c then numbered c
  else [c]

def quotedChar (c : Char) : String :=
  String.ofList ('\'' :: shown '\'' c ++ ['\''])

def quoted (s : String) : String :=
  String.ofList ('"' :: s.toList.flatMap (shown '"') ++ ['"'])

/-- A mark inside the quotes never stands alone. -/
theorem shown_mark (mark : Char) (h : mark ∉ ['\x00', '\t', '\n', '\r']) :
    shown mark mark = ['\\', mark] := by
  simp only [List.mem_cons, List.not_mem_nil, or_false, not_or] at h
  obtain ⟨h0, ht, hn, hr⟩ := h
  simp [shown, h0, ht, hn, hr]

end Liveness.Text
