import Liveness.Event

/-! Events with the times at which they happen. -/
namespace Liveness.Event
variable {p : Event → Bool} {now : Nat} {es fs : List Event}

theorem stamped_append (now : Nat) (es fs : List Event) :
    stamped now (es ++ fs) = stamped now es ++ stamped (now + total es) fs := by
  induction es generalizing now with
  | nil => rfl
  | cons e es ih =>
    rw [List.cons_append, stamped, stamped, ih, total_cons, Nat.add_assoc, List.cons_append]

theorem stamped_bounds {stamp : Nat × Event} (h : stamp ∈ stamped now es) :
    now ≤ stamp.1 ∧ stamp.1 ≤ now + total es := by
  induction es generalizing now with
  | nil => nomatch h
  | cons e es ih =>
    rw [stamped, List.mem_cons] at h
    rw [total_cons]
    obtain rfl | h := h
    · exact ⟨Nat.le_refl now, Nat.le_add_right now _⟩
    · have hlater := ih h
      omega

theorem map_snd_stamped : (stamped now es).map Prod.snd = es := by
  induction es generalizing now with
  | nil => rfl
  | cons e es ih => rw [stamped, List.map_cons, ih]

theorem mem_iff_exists_stamp {e : Event} : e ∈ es ↔ ∃ stamp ∈ stamped now es, stamp.2 = e := by
  rw [← List.mem_map, map_snd_stamped]

def timed (p : Event → Bool) (now : Nat) (es : List Event) : List (Nat × Event) :=
  (stamped now es).filter fun stamp => p stamp.2

theorem timed_cons (e : Event) : timed p now (e :: es) =
    (if p e then [(now, e)] else []) ++ timed p (now + e.span.nanos) es := by
  rw [timed, stamped, List.filter_cons]
  split <;> rfl

theorem timed_append : timed p now (es ++ fs) = timed p now es ++ timed p (now + total es) fs := by
  rw [timed, stamped_append, List.filter_append]
  rfl

theorem timed_eq_nil (h : ∀ e ∈ es, p e = false) : timed p now es = [] := by
  rw [timed, List.filter_eq_nil_iff]
  intro stamp hstamp
  rw [h stamp.2 (mem_iff_exists_stamp.2 ⟨stamp, hstamp, rfl⟩)]
  exact Bool.false_ne_true

theorem length_timed : (timed p now es).length = es.countP p := by
  induction es generalizing now with
  | nil => rfl
  | cons e es ih =>
    rw [timed_cons, List.length_append, ih, List.countP_cons, Nat.add_comm]
    split <;> rfl

end Liveness.Event
