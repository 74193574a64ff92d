import Liveness.Settings.Value
import Liveness.Text.Basic
import Liveness.Text.Numeral
import Liveness.Text.Utf8
import Liveness.Toml.Text

/-! Settings in environment variables: a variable's name is a path of keys, and its text is a value
where it reads as one. -/
namespace Liveness.Settings
open Text

abbrev Environment := List (String × String)

namespace Environment

/-- What the names of settings begin with, in any case. -/
def nameHead : List Char := "UPBEAT_".toList

/-- Double underscores become dots. -/
def dotted : List Char → List Char
  | '_' :: '_' :: s => '.' :: dotted s
  | c :: s => c :: dotted s
  | [] => []

/-- The path of keys that a variable's name stands for, if it names a setting. -/
def path? (name : String) : Option (List String) :=
  let s := dropAround isBlank name.toList
  let front := s.take nameHead.length
  if front.map Char.toUpper ≠ nameHead then none
  else
    let keys := splitAt (· == '.') (dropAround isBlank (dotted (s.drop nameHead.length)))
    if keys.any List.isEmpty then none
    else some (keys.map fun key => String.ofList (key.map Char.toLower))

def isGap (c : Char) : Bool :=
  c == ' ' || c == '\t' || c == '\n' || c == '\x0C' || c == '\r'

def skipGaps (s : List Char) : List Char := s.dropWhile isGap

def isDelimiter (c : Char) : Bool :=
  c == ',' || c == '\x7b' || c == '\x7d' || c == '[' || c == ']'

/-- The real number that a decimal with a point denotes. -/
def realNumber? (s : List Char) : Option Binary64 :=
  let (negative, s) := match s with
    | '-' :: s => (true, s)
    | '+' :: s => (false, s)
    | s => (false, s)
  let whole := s.takeWhile Char.isDigit
  match s.dropWhile Char.isDigit with
  | '.' :: s =>
    let part := s.takeWhile Char.isDigit
    let digits := (whole ++ part).filterMap (digit? 10)
    let value (exponent : Int) : Option Binary64 :=
      if digits.isEmpty then none
      else some (.ofDecimal negative (ofDigits 10 digits)
        (exponent - (part.length : Int)))
    match s.dropWhile Char.isDigit with
    | [] => value 0
    | c :: s =>
      if c ≠ 'e' ∧ c ≠ 'E' then none
      else
        let (below, s) := match s with
          | '-' :: s => (true, s)
          | '+' :: s => (false, s)
          | s => (false, s)
        if s.isEmpty ∨ !s.all Char.isDigit then none
        else
          let n := ofDigits 10 (s.filterMap (digit? 10))
          value (if below then -(n : Int) else n)
  | _ => none

/-- What a bare text denotes: a real number needs a point, and whatever is no number is text. -/
def bareScalar (s : List Char) : Scalar :=
  match if s.contains '.' then realNumber? s else none with
  | some x => .real x
  | none =>
    match readNumeral max64 s with
    | .ok n => .unsigned n
    | .error _ =>
      match readInteger s with
      | .ok n => .signed n
      | .error _ => .text (String.ofList s)

/-- What reads a thing off the front of a text, and gives what follows it. -/
abbrev Reader (α : Type) := List Char → Option (α × List Char)

/-- As many bytes of a text as it has characters, unless that cuts a character. -/
def shortened? (s : List Char) : Option (List Char) :=
  (Utf8.decode? ((Utf8.encode (String.ofList s)).take s.length)).map String.toList

/-- A text in double quotes. What stands before its first escape counts shortened. -/
def quotedText? : Reader String := fun s => do
  let (text, rest) ← Toml.quotedText? [⟨false, false⟩] s
  let front := (s.drop 1).takeWhile fun c => c != '"' && c != '\\'
  if (s.drop (front.length + 1)).head? = some '\\' then
    return (String.ofList ((← shortened? front) ++ text.toList.drop front.length), rest)
  else return (text, rest)

def key? : Reader String := fun s =>
  match s with
  | '"' :: _ => quotedText? s
  | _ =>
    let isKeyChar (c : Char) : Bool := c.isAlphanum || c == '_' || c == '-'
    let key := s.takeWhile isKeyChar
    if key.isEmpty then none else some (String.ofList key, s.dropWhile isKeyChar)

/-- Things up to a closing character, with commas between them; one more may follow the last. -/
def collect? {α : Type} (close : Char) (item : Reader α) : Nat → Reader (List α)
  | 0, _ => none
  | fuel + 1, s =>
    if s.head? = some close then some ([], s.drop 1)
    else do
      let (a, s) ← item s
      match s with
      | ',' :: s => let (rest, s) ← collect? close item fuel s; return (a :: rest, s)
      | c :: s => if c = close then return ([a], s) else none
      | [] => none

def field? (value : Reader Value) : Reader (String × Value) := fun s => do
  let (key, s) ← key? (skipGaps s)
  match skipGaps s with
  | '=' :: s => let (v, s) ← value s; return ((key, v), s)
  | _ => none

/-- A value and the blanks around it, with fewer than `depth` lists and tables around one
another. -/
def value? : (depth : Nat) → Reader Value := fun depth s => do
  let (v, s) ← match depth, skipGaps s with
    | _, 't' :: 'r' :: 'u' :: 'e' :: s => some (.scalar .environment (.boolean true), s)
    | _, 'f' :: 'a' :: 'l' :: 's' :: 'e' :: s => some (.scalar .environment (.boolean false), s)
    | depth + 1, '[' :: s =>
      (collect? ']' (value? depth) (s.length + 1) s).map fun (items, s) =>
        (.list .environment items, s)
    | depth + 1, '\x7b' :: s =>
      (collect? '\x7d' (field? (value? depth)) (s.length + 1) s).map fun (fields, s) =>
        (.table .environment (fields.foldl (fun es (k, v) => Fields.put k v es) []), s)
    | _, '"' :: s => (quotedText? ('"' :: s)).map fun (t, s) =>
        (.scalar .environment (.text t), s)
    | _, '\'' :: c :: '\'' :: s => some (.scalar .environment (.character c), s)
    | _, '\'' :: _ => none
    | _, s =>
      some (.scalar .environment (bareScalar (dropAround isBlank (s.takeWhile (!isDelimiter ·)))),
        s.dropWhile (!isDelimiter ·))
  return (v, skipGaps s)

/-- The value of a variable's text: what the whole text reads as, or the text itself. -/
def valueOf (text : String) : Value :=
  match value? (text.length + 1) text.toList with
  | some (v, []) => v
  | _ => .scalar .environment (.text text)

def nest (v : Value) : List String → Value
  | [] => v
  | key :: keys => .table .environment [(key, nest v keys)]

/-- The settings of all variables, one over another in the order of their names. The program takes
them as the system hands them to it, in an order that nobody promises; the sorted order is a choice
made here. It matters only between names whose paths are equal or lead one on from the other. -/
def layer (environment : Environment) : Value :=
  let named := environment.filterMap fun (name, text) =>
    (path? name).map fun keys => (name, nest (valueOf text) keys)
  (named.mergeSort fun a b => a.1 ≤ b.1).foldl (fun below (_, v) => v.over below)
    (.table .environment [])

/-- The variables of a block in which a zero byte ends each of them. -/
def ofBlock (block : List UInt8) : Environment :=
  ((block.splitOn 0).filterMap Utf8.decode?).filterMap fun s =>
    (cut? ['='] s.toList).map fun (name, text) => (String.ofList name, String.ofList text)

/-- The text of a variable. No variable has an empty name or one with an equals sign. -/
def text? (environment : Environment) (name : String) : Option String :=
  if name = "" ∨ '=' ∈ name.toList then none else environment.lookup name

end Environment
end Liveness.Settings
