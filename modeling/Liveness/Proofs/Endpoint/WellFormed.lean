import Liveness.Endpoint
import Mathlib.Data.Char

/-! What every endpoint read from a URL has: a host over its alphabet, a port, and a path without
white space and control characters. -/
namespace Liveness.Endpoint
open Text

/-- The endpoints that a URL can name. -/
structure WellFormed (e : Endpoint) : Prop where
  host_ne_nil : e.host.toList ≠ []
  isHostChar_of_mem : ∀ c ∈ e.host.toList, isHostChar c
  port_ne_zero : e.port ≠ 0
  isPathChar_of_mem : ∀ c ∈ e.path.toList, isPathChar c

theorem toNat_of_isHostChar {c : Char} (h : isHostChar c) : 0x2D ≤ c.toNat ∧ c.toNat ≤ 0x7A := by
  delta isHostChar Char.isAlphanum Char.isAlpha Char.isUpper Char.isLower at h
  simp only [Char.isDigit, Bool.or_eq_true, Bool.and_eq_true, decide_eq_true_eq, beq_iff_eq,
    ge_iff_le, UInt32.le_iff_toNat_le] at h
  change _ ≤ c.val.toNat ∧ c.val.toNat ≤ _
  rcases h with ((((h | h) | h) | rfl) | rfl) | rfl
  · exact ⟨le_trans (by decide) h.1, le_trans h.2 (by decide)⟩
  · exact ⟨le_trans (by decide) h.1, le_trans h.2 (by decide)⟩
  · exact ⟨le_trans (by decide) h.1, le_trans h.2 (by decide)⟩
  all_goals decide

theorem not_isControl_of_isHostChar {c : Char} (h : isHostChar c) : isControl c = false := by
  obtain ⟨hl, hh⟩ := toNat_of_isHostChar h
  simp only [isControl, Bool.or_eq_false_iff, Bool.and_eq_false_iff, decide_eq_false_iff_not]
  omega

theorem not_isControl_of_isPathChar {c : Char} (h : isPathChar c) : isControl c = false := by
  simpa using (Bool.and_eq_true_iff.1 h).2

theorem not_isBlank_of_isPathChar {c : Char} (h : isPathChar c) : isBlank c = false := by
  simpa using (Bool.and_eq_true_iff.1 h).1

theorem defaultPort_ne_zero (s : Scheme) : s.defaultPort ≠ 0 := by
  cases s <;> decide

theorem readPort_ne_zero {digits : List Char} {port : UInt16} (h : readPort digits = .ok port) :
    port ≠ 0 := by
  unfold readPort at h
  split at h
  · nomatch h
  next n hne hn =>
    have hle : n ≤ 0xFFFF := readNumeral_le hn
    rw [← Except.ok.inj h]
    intro h0
    have hval := congrArg UInt16.toNat h0
    rw [UInt16.toNat_ofNat', Nat.mod_eq_of_lt (by omega)] at hval
    exact hne hval
  · nomatch h

theorem readAuthority_port_ne_zero {scheme : Scheme} {authority host : List Char} {port : UInt16}
    (h : readAuthority scheme authority = .ok (host, port)) : port ≠ 0 := by
  unfold readAuthority at h
  split at h
  next digits _ =>
    cases hp : readPort digits with
    | error e => rw [hp] at h; nomatch h
    | ok p =>
      rw [hp] at h
      obtain ⟨-, rfl⟩ := Prod.mk.inj (Except.ok.inj h)
      exact readPort_ne_zero hp
  · obtain ⟨-, rfl⟩ := Prod.mk.inj (Except.ok.inj h)
    exact defaultPort_ne_zero scheme

theorem wellFormed_of_read {url : List Char} {e : Endpoint} (h : read url = .ok e) :
    e.WellFormed := by
  unfold read at h
  split at h
  · nomatch h
  split at h
  · nomatch h
  dsimp only at h
  split at h
  · nomatch h
  next host port hauthority =>
  have hempty : host.isEmpty = false := by
    by_contra hne
    rw [if_pos (by simpa using hne)] at h
    nomatch h
  rw [hempty, if_neg (by decide)] at h
  split at h
  · nomatch h
  next hhost =>
  split at h
  next hpath =>
    rw [← Except.ok.inj h]
    constructor
    · simpa using hempty
    · simpa using hhost
    · exact readAuthority_port_ne_zero hauthority
    · simpa using hpath
  · nomatch h

theorem wellFormed_of_parse {url : String} {e : Endpoint} (h : parse url = .ok e) :
    e.WellFormed := by
  unfold parse at h
  cases hr : read url.toList with
  | error fault => rw [hr] at h; nomatch h
  | ok endpoint =>
    rw [hr] at h
    exact Except.ok.inj h ▸ wellFormed_of_read hr

theorem wellFormed_of_join {base relative : String} {e : Endpoint}
    (h : join base relative = .ok e) : e.WellFormed :=
  wellFormed_of_parse h

end Liveness.Endpoint
