import Liveness.Text.Basic
import Mathlib.Data.List.DropRight

/-! Text that is trimmed at its end: what goes and where it stops. -/
namespace Liveness.Text
variable {p : Char → Bool} {s t : List Char}

theorem dropEnd_eq_rdropWhile : dropEnd p s = s.rdropWhile p := rfl

theorem mem_of_mem_dropEnd {c : Char} (h : c ∈ dropEnd p s) : c ∈ s :=
  (List.rdropWhile_prefix p s).subset h

theorem exists_eq_dropEnd_append : ∃ t, s = dropEnd p s ++ t ∧ t.all p := by
  refine ⟨s.rtakeWhile p, ?_, ?_⟩
  · rw [dropEnd_eq_rdropWhile, List.rdropWhile_append_rtakeWhile]
  · simpa using fun c hc => List.mem_rtakeWhile_imp hc

theorem getLast?_dropEnd_not : ∀ c ∈ (dropEnd p s).getLast?, p c = false := by
  intro c hc
  obtain ⟨hne, rfl⟩ := List.mem_getLast?_eq_getLast hc
  exact Bool.eq_false_iff.2 (List.rdropWhile_last_not p s hne)

theorem dropEnd_eq_self (h : ∀ c ∈ s.getLast?, p c = false) : dropEnd p s = s := by
  rw [dropEnd_eq_rdropWhile, List.rdropWhile_eq_self_iff]
  intro hne
  simpa using h _ (List.getLast_mem_getLast? hne)

/-- Trimming stays behind the last character that does not satisfy the predicate. -/
theorem dropEnd_append_of_getLast? (h : ∀ c ∈ s.getLast?, p c = false) :
    dropEnd p (s ++ t) = s ++ dropEnd p t := by
  induction t using List.reverseRecOn with
  | nil => simpa [dropEnd] using dropEnd_eq_self h
  | append_singleton t c ih =>
    simp only [dropEnd_eq_rdropWhile, ← List.append_assoc, List.rdropWhile_concat] at ih ⊢
    split_ifs
    · exact ih
    · exact List.append_assoc s t [c]

theorem dropEnd_eq_nil_iff : dropEnd p s = [] ↔ s.all p := by
  rw [dropEnd_eq_rdropWhile, List.rdropWhile_eq_nil_iff, List.all_eq_true]

theorem dropEnd_cons {c : Char} (hc : p c) :
    dropEnd p (c :: s) = if s.all p then [] else c :: dropEnd p s := by
  split_ifs with hall
  · rw [dropEnd_eq_nil_iff, List.all_cons, hc, hall]
    rfl
  · rw [← dropEnd_eq_nil_iff, dropEnd, List.reverse_eq_nil_iff] at hall
    simp [dropEnd, List.dropWhile_append, hall]

theorem trim_eq_empty_iff {s : String} : trim s = "" ↔ ∀ c ∈ s.toList, isBlank c := by
  have hempty : trim s = "" ↔ dropAround isBlank s.toList = [] := by
    rw [← String.toList_inj, trim, String.toList_ofList]
    rfl
  rw [hempty, dropAround, dropEnd_eq_nil_iff, List.all_eq_true]
  constructor
  · intro h c hc
    rw [← List.takeWhile_append_dropWhile (p := isBlank) (l := s.toList)] at hc
    obtain hc | hc := List.mem_append.1 hc
    · exact List.mem_takeWhile_imp hc
    · exact h c hc
  · intro h c hc
    exact h c ((List.dropWhile_suffix isBlank).subset hc)

end Liveness.Text
