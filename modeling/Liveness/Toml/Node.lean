import Liveness.Decimal.Binary64

/-! The content of a configuration document: values, tables of them, and how tables grow. -/
namespace Liveness.Toml

/-- A value without parts. Dates and times are kept as they are written. -/
inductive Scalar where
  | text (s : String)
  | integer (n : Int)
  | real (x : Binary64)
  | boolean (b : Bool)
  | moment (written : String)
deriving DecidableEq, Repr

/-- How a table came about: by a header of its own, by headers of tables inside it, by dotted keys,
or as a value between braces. -/
inductive TableKind where
  | header
  | implied
  | dotted
  | inline
deriving DecidableEq, Repr

/-- A value, a list of values, a table, or the tables that repeated headers make. -/
inductive Node where
  | scalar (s : Scalar)
  | array (items : List Node)
  | table (kind : TableKind) (entries : List (String × Node))
  | tables (elements : List Node)

abbrev Entries := List (String × Node)

namespace Entries

/-- The entries with `node` under `key`, in place of what the key named before. -/
def put (key : String) (node : Node) : Entries → Entries
  | [] => [(key, node)]
  | (k, v) :: es => if k = key then (k, node) :: es else (k, v) :: put key node es

/-- Changes the table below a path of keys. Tables that are missing on the way are made, of kind
`fresh`; `enters` says of which kinds existing ones may be. Repeated tables are entered through
their last element. -/
def descend (fresh : TableKind) (enters : TableKind → Bool)
    (change : TableKind → Entries → Option Entries) :
    List String → TableKind → Entries → Option Entries
  | [], kind, es => change kind es
  | k :: ks, _, es =>
    match es.lookup k with
    | none => (descend fresh enters change ks fresh []).map fun sub => es.put k (.table fresh sub)
    | some (.table kind sub) =>
      if enters kind then
        (descend fresh enters change ks kind sub).map fun sub => es.put k (.table kind sub)
      else none
    | some (.tables elements) =>
      match elements.getLast? with
      | some (.table kind sub) =>
        (descend fresh enters change ks kind sub).map fun sub =>
          es.put k (.tables (elements.dropLast ++ [.table kind sub]))
      | _ => none
    | some _ => none

/-- Adds a value under a dotted key. A key names one value only, and dotted keys extend only tables
that dotted keys made. -/
def insert (path : List String) (key : String) (value : Node) (es : Entries) : Option Entries :=
  descend .dotted (fun kind => kind = .dotted ∨ kind = .implied)
    (fun kind es =>
      if (path ≠ [] ∧ kind ≠ .dotted) ∨ (es.lookup key).isSome then none
      else some (es ++ [(key, value)]))
    path .header es

/-- Changes the table that holds the last key of a header. -/
def atHeader (path : List String) (change : Entries → Option Entries) (es : Entries) :
    Option Entries :=
  descend .implied (· ≠ .inline) (fun _ es => change es) path .header es

end Entries
end Liveness.Toml
