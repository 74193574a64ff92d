import Liveness.Toml.Text

/-! Writing documents: texts in the plainest form that holds them, and lines of keys and values
under headers. -/
namespace Liveness.Toml

/-- A control character that no text holds as it is: any but the tab and the line feed. -/
def isHardControl (c : Char) : Bool :=
  (c.toNat < 0x20 || c.toNat == 0x7F) && c != '\t' && c != '\n'

/-- Three of a character in a row. -/
def hasRun (mark : Char) : List Char → Bool
  | a :: b :: c :: s => (a == mark && b == mark && c == mark) || hasRun mark (b :: c :: s)
  | _ => false

def twoHexDigits (n : Nat) : List Char :=
  [Nat.digitChar (n / 16), Nat.digitChar (n % 16)].map Char.toUpper

def escapedChar (long : Bool) (c : Char) : List Char :=
  if c = '\x08' then ['\\', 'b']
  else if c = '\t' then ['\\', 't']
  else if c = '\n' then (if long then ['\n'] else ['\\', 'n'])
  else if c = '\x0C' then ['\\', 'f']
  else if c = '\r' then ['\\', 'r']
  else if c = '\\' then ['\\', '\\']
  else if isHardControl c then ['\\', 'u', '0', '0'] ++ twoHexDigits c.toNat
  else [c]

/-- A text between double quotes, after `run` of them. A long text needs to escape only every third
double quote of a run; an escape ends a run. -/
def escapedText (long : Bool) : (run : Nat) → List Char → List Char
  | _, [] => []
  | run, c :: s =>
    if c = '"' then
      if long && run < 2 then '"' :: escapedText long (run + 1) s
      else '\\' :: '"' :: escapedText long 0 s
    else escapedChar long c ++ escapedText long 0 s

/-- The plainest form that holds a text. -/
def TextForm.fitting (s : List Char) : TextForm :=
  let hard := s.any isHardControl
  let lines := s.contains '\n'
  let backslash := s.contains '\\'
  if !hard && !backslash && !lines && !s.contains '"' then ⟨false, false⟩
  else if !hard && !lines && !s.contains '\'' then ⟨true, false⟩
  else if !hard && !backslash && !hasRun '"' s then ⟨false, true⟩
  else if !hard && !hasRun '\'' s then ⟨true, true⟩
  else ⟨false, lines⟩

/-- A text between its marks. A long text that holds line breaks begins on a line of its own. -/
def TextForm.write (form : TextForm) (s : List Char) : List Char :=
  form.marks ++ (if form.long && s.contains '\n' then ['\n'] else []) ++
    (if form.literal then s else escapedText form.long 0 s) ++ form.marks

def writeText (s : String) : String :=
  String.ofList ((TextForm.fitting s.toList).write s.toList)

inductive Written where
  | text (s : String)
  | integer (n : Nat)
  | boolean (b : Bool)
deriving DecidableEq, Repr

def Written.toText : Written → String
  | .text s => writeText s
  | .integer n => toString n
  | .boolean b => toString b

structure WrittenTable where
  name : String
  pairs : List (String × Written)
deriving DecidableEq, Repr

def WrittenTable.toText (t : WrittenTable) : String :=
  "[" ++ t.name ++ "]\n" ++
    String.join (t.pairs.map fun (key, v) => key ++ " = " ++ v.toText ++ "\n")

def writeDocument (tables : List WrittenTable) : String :=
  "\n".intercalate (tables.map WrittenTable.toText)

end Liveness.Toml
