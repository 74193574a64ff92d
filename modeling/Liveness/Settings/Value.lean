import Liveness.Toml.Node

/-! Values that settings are read from, and the layers that they come in: tables merge key by key,
and any other value of a later layer replaces what an earlier one gives. -/
namespace Liveness.Settings

inductive Origin where
  | file
  | environment
deriving DecidableEq, Repr

/-- A value without parts. Integers of a file are signed; the environment tells them apart, and it
knows single characters besides texts. -/
inductive Scalar where
  | text (s : String)
  | character (c : Char)
  | signed (n : Int)
  | unsigned (n : Nat)
  | real (x : Binary64)
  | boolean (b : Bool)
deriving DecidableEq, Repr

/-- A value and its origin. The keys of a table are in order, and no key occurs twice. -/
inductive Value where
  | scalar (origin : Origin) (s : Scalar)
  | list (origin : Origin) (items : List Value)
  | table (origin : Origin) (entries : List (String × Value))

abbrev Fields := List (String × Value)

def Value.origin : Value → Origin
  | .scalar o _ | .list o _ | .table o _ => o

/-- The fields with `v` under `key`, kept in order. -/
def Fields.put (key : String) (v : Value) : Fields → Fields
  | [] => [(key, v)]
  | (k, u) :: es =>
    if key = k then (k, v) :: es
    else if key < k then (key, v) :: (k, u) :: es
    else (k, u) :: put key v es

mutual

def Value.over : Value → Value → Value
  | .table o fs, .table _ es => .table o (Fields.over fs es)
  | v, _ => v

def Fields.over : Fields → Fields → Fields
  | [], es => es
  | f :: fs, es => Fields.over fs (Fields.enter f es)

def Fields.enter : String × Value → Fields → Fields
  | (k, v), es =>
    match es.lookup k with
    | none => Fields.put k v es
    | some u => Fields.put k (Value.over v u) es

end

mutual

/-- The value of a part of a document. A date is a table of one entry under a reserved key. -/
def Value.ofNode : Toml.Node → Value
  | .scalar (.text s) => .scalar .file (.text s)
  | .scalar (.integer n) => .scalar .file (.signed n)
  | .scalar (.real x) => .scalar .file (.real x)
  | .scalar (.boolean b) => .scalar .file (.boolean b)
  | .scalar (.moment written) =>
    .table .file [("$__toml_private_datetime", .scalar .file (.text written))]
  | .array items => .list .file (Value.ofNodes items)
  | .tables elements => .list .file (Value.ofNodes elements)
  | .table _ entries => .table .file (Fields.ofEntries entries)

def Value.ofNodes : List Toml.Node → List Value
  | [] => []
  | n :: ns => Value.ofNode n :: Value.ofNodes ns

def Fields.ofEntries : List (String × Toml.Node) → Fields
  | [] => []
  | e :: es => Fields.ofEntry e (Fields.ofEntries es)

def Fields.ofEntry : String × Toml.Node → Fields → Fields
  | (k, n), es => Fields.put k (Value.ofNode n) es

end

end Liveness.Settings
