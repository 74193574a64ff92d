import Liveness.Toml.Node
import Liveness.Toml.Numeral
import Liveness.Toml.Text

/-! Keys and values of configuration documents. -/
namespace Liveness.Toml

abbrev Reader (α : Type) := List Char → Option (α × List Char)

structure Pair where
  path : List String
  key : String
  value : Node

/-- The bound on nested arrays and inline tables, and on the parts of a dotted key. -/
def depthBound : Nat := 80

def isKeyChar (c : Char) : Bool := c.isAlphanum || c == '-' || c == '_'

def keyPart? : Reader String := fun s =>
  match s with
  | '"' :: _ | '\'' :: _ => quotedText? shortForms s
  | _ =>
    let part := s.takeWhile isKeyChar
    if part.isEmpty then none else some (String.ofList part, s.dropWhile isKeyChar)

def keyParts? : Nat → Reader (List String)
  | 0, _ => none
  | fuel + 1, s => do
    let (part, s) ← keyPart? (skipSpace s)
    match skipSpace s with
    | '.' :: s => let (parts, s) ← keyParts? fuel s; return (part :: parts, s)
    | s => return ([part], s)

/-- A dotted key: the parts before the last, and the last. -/
def key? : Reader (List String × String) := fun s => do
  let (parts, s) ← keyParts? (depthBound - 1) s
  let last ← parts.getLast?
  return ((parts.dropLast, last), s)

def pair? (value : Reader Node) : Reader Pair := fun s => do
  let ((path, key), s) ← key? s
  let s ← expect? '=' s
  let (value, s) ← value (skipSpace s)
  return (⟨path, key, value⟩, s)

def items? (value : Reader Node) : Nat → Reader (List Node)
  | 0, _ => none
  | fuel + 1, s =>
    match skipLines false s with
    | ']' :: s => some ([], s)
    | s => do
      let (item, s) ← value s
      match skipLines false s with
      | ',' :: s => let (items, s) ← items? value fuel s; return (item :: items, s)
      | ']' :: s => return ([item], s)
      | _ => none

def pairs? (value : Reader Node) : Nat → Reader (List Pair)
  | 0, _ => none
  | fuel + 1, s => do
    let (pair, s) ← pair? value s
    match skipSpace s with
    | ',' :: s => let (pairs, s) ← pairs? value fuel s; return (pair :: pairs, s)
    | '}' :: s => return ([pair], s)
    | _ => none

def Entries.insertAll (pairs : List Pair) (es : Entries) : Option Entries :=
  pairs.foldlM (fun es p => es.insert p.path p.key p.value) es

def inlineTable? (value : Reader Node) : Reader Node := fun s =>
  match skipSpace s with
  | '}' :: s => some (.table .inline [], s)
  | _ => do
    let (pairs, rest) ← pairs? value s.length s
    let entries ← Entries.insertAll pairs []
    return (.table .inline entries, rest)

def plainScalar? : Reader Scalar := fun s =>
  match s with
  | 't' :: 'r' :: 'u' :: 'e' :: s => some (.boolean true, s)
  | 'f' :: 'a' :: 'l' :: 's' :: 'e' :: s => some (.boolean false, s)
  | s =>
    match moment? s with
    | some rest => some (.moment (String.ofList (s.take (s.length - rest.length))), rest)
    | none => (number? s).map fun
      | (.integer n, rest) => (.integer n, rest)
      | (.real x, rest) => (.real x, rest)

/-- A value with fewer than `depth` arrays and tables around one another. -/
def value? : (depth : Nat) → Reader Node
  | _, '"' :: s => (quotedText? allForms ('"' :: s)).map fun (t, s) => (.scalar (.text t), s)
  | _, '\'' :: s => (quotedText? allForms ('\'' :: s)).map fun (t, s) => (.scalar (.text t), s)
  | depth + 1, '[' :: s =>
    (items? (value? depth) (s.length + 1) s).map fun (items, s) => (.array items, s)
  | depth + 1, '{' :: s => inlineTable? (value? depth) s
  | _, s => (plainScalar? s).map fun (v, s) => (.scalar v, s)

end Liveness.Toml
