/-! White space, control characters, and the cuts that text makes at them. -/
namespace Liveness.Text

/-- The characters with the Unicode property White_Space. -/
def isBlank (c : Char) : Bool :=
  let n := c.toNat
  (9 ≤ n && n ≤ 13) || n == 0x20 || n == 0x85 || n == 0xA0 || n == 0x1680 ||
    (0x2000 ≤ n && n ≤ 0x200A) || n == 0x2028 || n == 0x2029 || n == 0x202F ||
    n == 0x205F || n == 0x3000

/-- The characters of category Cc: C0 controls, delete, and C1 controls. -/
def isControl (c : Char) : Bool :=
  c.toNat < 0x20 || (0x7F ≤ c.toNat && c.toNat ≤ 0x9F)

theorem isBlank_of_isWhitespace {c : Char} (h : c.isWhitespace) : isBlank c := by
  simp only [Char.isWhitespace, Bool.or_eq_true, decide_eq_true_eq] at h
  rcases h with ((rfl | rfl) | rfl) | rfl <;> decide

def dropEnd (p : Char → Bool) (s : List Char) : List Char :=
  (s.reverse.dropWhile p).reverse

def dropAround (p : Char → Bool) (s : List Char) : List Char :=
  dropEnd p (s.dropWhile p)

def trim (s : String) : String := String.ofList (dropAround isBlank s.toList)

def isBlankText (s : String) : Bool := s.toList.all isBlank

theorem dropEnd_append_of_all {p : Char → Bool} {s t : List Char} (h : t.all p) :
    dropEnd p (s ++ t) = dropEnd p s := by
  have key : ∀ u v : List Char, u.all p → (u ++ v).dropWhile p = v.dropWhile p := by
    intro u v hu
    induction u with
    | nil => rfl
    | cons a u ih => simp_all
  rw [dropEnd, List.reverse_append, key _ _ (by simpa using h), dropEnd]

/-- What stands before and after the first occurrence of `sep`. -/
def cut? (sep : List Char) : List Char → Option (List Char × List Char)
  | [] => if sep.isPrefixOf [] then some ([], []) else none
  | c :: s =>
    if sep.isPrefixOf (c :: s) then some ([], (c :: s).drop sep.length)
    else (cut? sep s).map fun (before, after) => (c :: before, after)

def holdsZero (s : String) : Bool := s.toList.contains '\x00'

def cutLast? (sep : Char) (s : List Char) : Option (List Char × List Char) :=
  match s.reverse.span (· != sep) with
  | (_, []) => none
  | (after, _ :: before) => some (before.reverse, after.reverse)

/-- The pieces between the items that satisfy `p`; one more than there are such items. -/
def splitAt {α : Type} (p : α → Bool) : List α → List (List α)
  | [] => [[]]
  | c :: s =>
    if p c then [] :: splitAt p s
    else match splitAt p s with
      | [] => [[c]]
      | piece :: pieces => (c :: piece) :: pieces

theorem splitAt_ne_nil {α : Type} {p : α → Bool} {s : List α} : splitAt p s ≠ [] := by
  cases s with
  | nil => exact nofun
  | cons c s =>
    rw [splitAt]
    split
    · exact nofun
    · split <;> exact nofun

theorem splitAt_of_all_not {α : Type} {p : α → Bool} {s : List α} (h : ∀ c ∈ s, p c = false) :
    splitAt p s = [s] := by
  induction s with
  | nil => rfl
  | cons c s ih => simp [splitAt, h c, ih fun d hd => h d (List.mem_cons_of_mem _ hd)]

theorem splitAt_append_cons {α : Type} {p : α → Bool} {s t : List α} {sep : α}
    (h : ∀ c ∈ s, p c = false) (hs : p sep = true) :
    splitAt p (s ++ sep :: t) = s :: splitAt p t := by
  induction s with
  | nil => simp [splitAt, hs]
  | cons c s ih => simp [splitAt, h c, ih fun d hd => h d (List.mem_cons_of_mem _ hd)]

/-- The runs of characters other than white space, in order. -/
def words (s : List Char) : List (List Char) :=
  (splitAt isBlank s).filter (! ·.isEmpty)

theorem eq_of_cut?_eq_some {sep s before after : List Char} (h : cut? sep s = some (before, after)) :
    s = before ++ sep ++ after := by
  induction s generalizing before with
  | nil =>
    simp only [cut?, Option.ite_none_right_eq_some, Option.some.injEq, Prod.mk.injEq] at h
    obtain ⟨hsep, rfl, rfl⟩ := h
    rw [List.prefix_nil.1 (List.isPrefixOf_iff_prefix.1 hsep)]
    rfl
  | cons c s ih =>
    rw [cut?] at h
    split at h
    next hsep =>
      obtain ⟨rest, hrest⟩ := List.isPrefixOf_iff_prefix.1 hsep
      simp only [← hrest, List.drop_left, Option.some.injEq, Prod.mk.injEq] at h
      obtain ⟨rfl, rfl⟩ := h
      exact hrest.symm
    next =>
      simp only [Option.map_eq_some_iff, Prod.mk.injEq] at h
      obtain ⟨⟨first, last⟩, hlater, rfl, rfl⟩ := h
      rw [ih hlater]
      rfl

theorem cut?_append {c : Char} {sep before after : List Char} (h : c ∉ before) :
    cut? (c :: sep) (before ++ c :: sep ++ after) = some (before, after) := by
  induction before with
  | nil => simp [cut?]
  | cons b before ih =>
    rw [List.mem_cons, not_or] at h
    simp only [List.append_assoc, List.cons_append] at ih
    simp [cut?, h.1, ih h.2]

theorem cut?_single_eq_none {c : Char} {s : List Char} :
    cut? [c] s = none ↔ c ∉ s := by
  induction s with
  | nil => simp [cut?]
  | cons a s ih =>
    by_cases h : c = a
    · simp [cut?, h]
    · simp [cut?, ih, h]

/-- A cut at one character loses nothing, and the first part does not hold it. -/
theorem cut?_single_eq_some {c : Char} {s before after : List Char} :
    cut? [c] s = some (before, after) ↔ s = before ++ c :: after ∧ c ∉ before := by
  induction s generalizing before with
  | nil => simp [cut?]
  | cons a s ih =>
    by_cases h : c = a
    · subst h
      cases before with
      | nil => simp [cut?]
      | cons b before => simp [cut?]; grind
    · cases before with
      | nil => simp [cut?, h]; grind
      | cons b before =>
        simp [cut?, h, ih]
        grind

end Liveness.Text
