import Liveness.Toml.Value

/-! Configuration documents: lines of keys with values, under headers. -/
namespace Liveness.Toml

inductive Statement where
  | pair (p : Pair)
  /-- The header of a table, or of one more of repeated tables. -/
  | header (repeated : Bool) (path : List String) (key : String)

def statement? : Reader Statement := fun s =>
  match s with
  | '[' :: '[' :: s => do
    let ((path, key), s) ← key? s
    let s ← expect? ']' s
    let s ← expect? ']' s
    return (.header true path key, s)
  | '[' :: s => do
    let ((path, key), s) ← key? s
    let s ← expect? ']' s
    return (.header false path key, s)
  | s => (pair? (value? (depthBound - 1)) s).map fun (p, s) => (.pair p, s)

def statements? : Nat → List Char → Option (List Statement)
  | 0, _ => none
  | fuel + 1, s =>
    match skipLines false s with
    | [] => some []
    | s => do
      let (statement, s) ← statement? s
      let s ← lineEnd? s
      let statements ← statements? fuel s
      return statement :: statements

structure Section where
  repeated : Bool
  path : List String
  key : String
  pairs : List Pair

def sections : List Statement → List Pair × List Section
  | [] => ([], [])
  | .pair p :: rest => let (pairs, later) := sections rest; (p :: pairs, later)
  | .header repeated path key :: rest =>
    let (pairs, later) := sections rest
    ([], ⟨repeated, path, key, pairs⟩ :: later)

/-- Adds a section. A header opens a table that no other header opened and no key made. -/
def Section.addTo (s : Section) (es : Entries) : Option Entries :=
  es.atHeader s.path fun parent =>
    if s.repeated then
      match parent.lookup s.key with
      | none => (Entries.insertAll s.pairs []).map fun sub =>
          parent.put s.key (.tables [.table .header sub])
      | some (.tables elements) => (Entries.insertAll s.pairs []).map fun sub =>
          parent.put s.key (.tables (elements ++ [.table .header sub]))
      | some _ => none
    else
      match parent.lookup s.key with
      | none => (Entries.insertAll s.pairs []).map fun sub =>
          parent.put s.key (.table .header sub)
      | some (.table .implied below) => (Entries.insertAll s.pairs below).map fun sub =>
          parent.put s.key (.table .header sub)
      | some _ => none

def assemble? (statements : List Statement) : Option Entries := do
  let (pairs, later) := sections statements
  let top ← Entries.insertAll pairs []
  later.foldlM (fun es s => s.addTo es) top

/-- The content of a written document, if it is well formed. A byte order mark may lead it. -/
def read? (text : String) : Option Entries :=
  let s := match text.toList with
    | '\uFEFF' :: s => s
    | s => s
  (statements? (s.length + 1) s).bind assemble?

end Liveness.Toml
