import Liveness.Text.Basic

/-! Text set in lines: as many words stand on a line as fit into its width. -/
namespace Liveness.Text.Filled

/-- The words of a text, each with the spaces behind it. -/
def words : List Char → List (List Char)
  | [] => []
  | c :: s =>
    match words s with
    | [] => [[c]]
    | w :: ws => if c = ' ' ∧ w.head? ≠ some ' ' then [c] :: w :: ws else (c :: w) :: ws

/-- The columns that a text takes up. A control character hides itself and what follows it, up to
an `m`. -/
def columns : (hidden : Bool) → List Char → Nat
  | _, [] => 0
  | hidden, c :: s =>
    if c.toNat < 0x20 ∨ c.toNat = 0x7F then columns true s
    else if hidden then columns (c != 'm') s
    else columns false s + 1

/-- Sets words behind a line of which some columns are used. Blanks do not count at the end of a
line, and `margin` begins every line but the first. -/
def set (width : Nat) (margin : List Char) : (used : Nat) → List Char → List (List Char) →
    List (List Char)
  | _, line, [] => [line]
  | used, line, w :: ws =>
    let body := dropEnd isBlank w
    let taken := columns false body
    let gap := (String.ofList (w.drop body.length)).utf8ByteSize
    if 0 < used ∧ width < used + taken then
      dropEnd isBlank line :: set width margin (margin.length + taken + gap) (margin ++ w) ws
    else set width margin (used + taken + gap) (line ++ w) ws

/-- A line of text in lines of a width. The spaces that it begins with begin them all. -/
def fold (width : Nat) (line : List Char) : List (List Char) :=
  let margin := if (words line).head?.any (·.all isBlank) then line.takeWhile (· == ' ') else []
  set width margin 0 [] (words line)

def lines (width : Nat) (s : List Char) : List (List Char) :=
  (splitAt (· == '\n') s).flatMap (fold width)

theorem flatten_words (s : List Char) : (words s).flatten = s := by
  induction s with
  | nil => rfl
  | cons c s ih =>
    simp only [words]
    split
    · next h => simpa [h] using ih
    · next w ws h =>
      rw [h] at ih
      split <;> simpa using ih

end Liveness.Text.Filled
