import Liveness.Net.Fault
import Liveness.Text.Basic
import Liveness.Text.Utf8

/-! Paths: how they are joined and tidied, and where they lead in a tree of directories. -/
namespace Liveness

inductive Standing where
  | nothing
  | file
  | directory
deriving DecidableEq, Repr

/-- A place in a tree of directories: the names on the way to it from the root, or from the working
directory. -/
structure Place where
  absolute : Bool
  names : List String
deriving DecidableEq, Repr

namespace Place

def parent (p : Place) : Place := { p with names := p.names.dropLast }

def child (p : Place) (name : String) : Place := { p with names := p.names ++ [name] }

def ancestors (p : Place) : List Place :=
  (List.range p.names.length).map fun n => { p with names := p.names.take n }

/-- The tree of some files and directories, with the directories on the way to them. -/
def tree (files directories : List Place) (p : Place) : Standing :=
  if files.contains p then .file
  else if directories.contains p || (files ++ directories).any (·.ancestors.contains p) then
    .directory
  else .nothing

end Place

namespace Path
open Net

def isAbsolute (path : String) : Bool := path.toList.head? == some '/'

/-- A path below a directory. An absolute one replaces the directory. -/
def below (directory path : String) : String :=
  if isAbsolute path ∨ directory = "" then path
  else if directory.toList.getLast? = some '/' then directory ++ path
  else directory ++ "/" ++ path

def steps (path : String) : List String :=
  (Text.splitAt (· == '/') path.toList).map String.ofList

def stays (step : String) : Bool := step == "" || step == "."

def tidy (path : String) : String :=
  let joined := "/".intercalate ((steps path).filter (!stays ·))
  if isAbsolute path then "/" ++ joined else joined

/-- Where a file is looked for, nearest first: a relative path is tried in the working directory and
in each directory around it. -/
def places (workingDirectory path : String) : List String :=
  if isAbsolute path then [path]
  else
    let names := (steps workingDirectory).filter (!stays ·)
    (List.range (names.length + 1)).reverse.map fun n =>
      below ("/" ++ "/".intercalate (names.take n)) path

/-- The most bytes that a name has, and those that a path has. -/
def longestName : Nat := 255
@[inherit_doc longestName] def longestPath : Nat := 4095

/-- The place that steps lead to from a directory. All but the last lead to directories; what the
last one names may be anything, or nothing. -/
def walk (tree : Place → Standing) : Place → List String → Except Fault Place
  | here, [] => .ok here
  | here, step :: rest =>
    if stays step then walk tree here rest
    else if step = ".." then walk tree here.parent rest
    else if longestName < (Text.Utf8.encode step).length then .error .nameTooLong
    else if rest = [] then .ok (here.child step)
    else match tree (here.child step) with
      | .directory => walk tree (here.child step) rest
      | .file => .error .notDirectory
      | .nothing => .error .missingFile

/-- The place that a path leads to. The empty path leads nowhere. -/
def lead (tree : Place → Standing) (path : String) : Except Fault Place :=
  if Text.holdsZero path then .error .zeroInFileName
  else if path = "" then .error .missingFile
  else if longestPath < (Text.Utf8.encode path).length then .error .nameTooLong
  else walk tree ⟨isAbsolute path, []⟩ (steps path)

/-- Why a program cannot be started where none is to be found. A name without a slash is looked for
in the directories that programs are in. -/
def programFault (tree : Place → Standing) (name : String) : Fault :=
  if name.toList.contains '/' then
    match lead tree name with
    | .error fault => fault
    | .ok place => if tree place = .nothing then .missingFile else .permissionDenied
  else if longestName < (Text.Utf8.encode name).length then .nameTooLong
  else if name = "." ∨ name = ".." then .permissionDenied
  else .missingFile

/-- Steps that stay where they are lead to where the others lead, if a name follows them. -/
theorem walk_append_stay (tree : Place → Standing) (here : Place) {s : List String}
    (h : s.all stays = true) (rest : List String) :
    walk tree here (s ++ rest) = walk tree here rest := by
  induction s with
  | nil => rfl
  | cons step s ih =>
    simp only [List.all_cons, Bool.and_eq_true] at h
    simp [walk, h.1, ih h.2]

/-- A way that leads on behind a file leads nowhere. -/
theorem walk_file {tree : Place → Standing} {here : Place} {name next : String}
    {rest : List String} (hs : stays name = false) (hp : name ≠ "..")
    (hl : (Text.Utf8.encode name).length ≤ longestName) (hf : tree (here.child name) = .file) :
    walk tree here (name :: next :: rest) = .error .notDirectory := by
  simp [walk, hs, hp, hf, Nat.not_lt.2 hl]

end Path
end Liveness
