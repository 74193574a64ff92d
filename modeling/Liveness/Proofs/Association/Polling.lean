import Liveness.Association
import Mathlib.Data.List.Basic

/-! How an attempt ends: at the first terminal status, however many polls that takes. -/
namespace Liveness

namespace Radio
variable {ρ : Type} [Radio ρ]

def polled : Nat → ρ → ρ
  | 0, radio => radio
  | n + 1, radio => polled n (status radio).next

def statusAt (n : Nat) (radio : ρ) : Int := (status (polled n radio)).value

theorem polled_succ (n : Nat) (radio : ρ) : polled (n + 1) radio = (status (polled n radio)).next := by
  induction n generalizing radio with
  | zero => rfl
  | succ n ih => exact ih _

/-- None of the first `n` polls reads a terminal status. -/
def Unsettled (n : Nat) (radio : ρ) : Prop := ∀ k < n, Link.isTerminal (statusAt k radio) = false

theorem unsettled_succ_iff {n : Nat} {radio : ρ} :
    Unsettled (n + 1) radio ↔
      Link.isTerminal (status radio).value = false ∧ Unsettled n (status radio).next := by
  constructor
  · intro h
    exact ⟨h 0 (Nat.succ_pos n), fun k hk => h (k + 1) (Nat.succ_lt_succ hk)⟩
  · rintro ⟨hfirst, hlater⟩ k hk
    cases k with
    | zero => exact hfirst
    | succ k => exact hlater k (Nat.lt_of_succ_lt_succ hk)

end Radio

namespace Association
variable {ρ : Type} {interval : Duration} {limit : Nat} {a : Association} {radio : ρ}

def outcomeOf (status : Int) : AssociationOutcome :=
  if status = Link.up then .associated status else .rejected status

theorem conclude_eq (status : Int) :
    (a.conclude radio status).outcome = some (outcomeOf status) ∧
      (a.conclude radio status).radio = radio ∧
      (a.conclude radio status).association.polls = a.polls ∧
      (a.conclude radio status).association.lastStatus = a.lastStatus := by
  unfold conclude outcomeOf
  split_ifs <;> exact ⟨rfl, rfl, rfl, rfl⟩

variable [Radio ρ]

def heard (a : Association) (status : Int) : Association :=
  { a with polls := a.polls + 1, lastStatus := some status }

def asked (radio : ρ) : List Event :=
  .lamp true :: (Radio.status radio).events ++ [.status (Radio.status radio).value]

theorem poll_succ_of_terminal (h : Link.isTerminal (Radio.status radio).value = true) :
    let ended := (a.heard (Radio.status radio).value).conclude (Radio.status radio).next
      (Radio.status radio).value
    poll interval (limit + 1) a radio = { ended with events := asked radio ++ ended.events } := by
  simp [poll, h, heard, asked]

theorem poll_succ_of_not_terminal (h : Link.isTerminal (Radio.status radio).value = false) :
    let rest := poll interval limit (a.heard (Radio.status radio).value) (Radio.status radio).next
    poll interval (limit + 1) a radio =
      { rest with events := asked radio ++ .lamp false :: .pollWait interval :: rest.events } := by
  simp [poll, h, heard, asked]

/-- The limit is met exactly where no poll within it reads a terminal status. -/
theorem poll_outcome_eq_none_iff :
    (poll interval limit a radio).outcome = none ↔ Radio.Unsettled limit radio := by
  induction limit generalizing a radio with
  | zero => simp [poll, Radio.Unsettled]
  | succ limit ih =>
    cases h : Link.isTerminal (Radio.status radio).value with
    | true =>
      rw [poll_succ_of_terminal h, Radio.unsettled_succ_iff, h]
      simp [conclude_eq]
    | false =>
      rw [poll_succ_of_not_terminal h, Radio.unsettled_succ_iff, h]
      simpa using ih

theorem poll_of_settled {n : Nat} (interval : Duration) (a : Association) (hn : n < limit)
    (hunsettled : Radio.Unsettled n radio)
    (hterminal : Link.isTerminal (Radio.statusAt n radio) = true) :
    let attempt := poll interval limit a radio
    attempt.outcome = some (outcomeOf (Radio.statusAt n radio)) ∧
      attempt.radio = Radio.polled (n + 1) radio ∧
      attempt.association.polls = a.polls + (n + 1) ∧
      attempt.association.lastStatus = some (Radio.statusAt n radio) := by
  induction n generalizing a radio limit with
  | zero =>
    obtain ⟨limit, rfl⟩ := Nat.exists_eq_succ_of_ne_zero (Nat.ne_of_gt hn)
    have hfirst : Link.isTerminal (Radio.status radio).value = true := hterminal
    rw [poll_succ_of_terminal hfirst]
    exact conclude_eq _
  | succ n ih =>
    obtain ⟨limit, rfl⟩ := Nat.exists_eq_succ_of_ne_zero (Nat.ne_of_gt (Nat.zero_lt_of_lt hn))
    obtain ⟨hfirst, hlater⟩ := Radio.unsettled_succ_iff.1 hunsettled
    rw [poll_succ_of_not_terminal hfirst]
    obtain ⟨houtcome, hradio, hpolls, hlast⟩ := ih (a.heard (Radio.status radio).value)
      (Nat.lt_of_succ_lt_succ hn) hlater hterminal
    exact ⟨houtcome, hradio, hpolls.trans (by simp [heard]; omega), hlast⟩

theorem run_of_activated {network : Credentials} (limit : Nat) (interval : Duration)
    (earlier : Association) (h : (Radio.activate radio network).value = .ok ()) :
    let begun : Association := { earlier with lastStatus := none, polls := 0, state := .associating }
    let polled := poll interval limit begun (Radio.activate radio network).next
    let attempt := run limit network interval earlier radio
    attempt.outcome = polled.outcome ∧ attempt.association = polled.association ∧
      attempt.radio = polled.radio := by
  unfold run
  dsimp only
  rw [h]
  exact ⟨rfl, rfl, rfl⟩

theorem run_of_refused {network : Credentials} {e : RadioError} (limit : Nat) (interval : Duration)
    (earlier : Association) (h : (Radio.activate radio network).value = .error e) :
    (run limit network interval earlier radio).outcome = some (.activationFailed e) ∧
      (run limit network interval earlier radio).radio = (Radio.activate radio network).next := by
  unfold run
  dsimp only
  rw [h]
  exact ⟨rfl, rfl⟩

/-- A greater limit changes nothing about polling that has ended. -/
theorem poll_of_le {most : Nat} (hended : (poll interval limit a radio).outcome ≠ none)
    (hle : limit ≤ most) : poll interval most a radio = poll interval limit a radio := by
  induction limit generalizing a radio most with
  | zero => exact absurd rfl hended
  | succ limit ih =>
    obtain ⟨most, rfl⟩ := Nat.exists_eq_succ_of_ne_zero (Nat.ne_of_gt (Nat.zero_lt_of_lt hle))
    cases h : Link.isTerminal (Radio.status radio).value with
    | true => rw [poll_succ_of_terminal h, poll_succ_of_terminal h]
    | false =>
      rw [poll_succ_of_not_terminal h] at hended
      have hrest := ih hended (Nat.le_of_succ_le_succ hle)
      rw [poll_succ_of_not_terminal h, poll_succ_of_not_terminal h, hrest]

theorem run_of_le {most : Nat} {network : Credentials} {earlier : Association}
    (hended : (run limit network interval earlier radio).outcome ≠ none) (hle : limit ≤ most) :
    run most network interval earlier radio = run limit network interval earlier radio := by
  unfold run at hended ⊢
  dsimp only at hended ⊢
  cases hvalue : (Radio.activate radio network).value with
  | error e => rfl
  | ok =>
    rw [hvalue] at hended
    dsimp only at hended ⊢
    rw [poll_of_le hended hle]

/-- What happens in an attempt after its activation. -/
def isPolling : Event → Bool
  | .lamp _ | .effect _ | .status _ | .pollWait _ => true
  | .report (.activationFailed _) | .report (.associated _) | .report (.rejected _) => true
  | _ => false

theorem isPolling_of_mem_effects {effects : List Effect} {e : Event}
    (he : e ∈ effects.map .effect) : isPolling e = true := by
  obtain ⟨effect, -, rfl⟩ := List.mem_map.1 he
  rfl

theorem isPolling_of_mem_asked {e : Event} (he : e ∈ asked radio) : isPolling e = true := by
  simp only [asked, List.cons_append, List.mem_cons, List.mem_append, List.not_mem_nil,
    or_false] at he
  obtain rfl | he | rfl := he
  · rfl
  · exact isPolling_of_mem_effects he
  · rfl

theorem isPolling_of_mem_poll {e : Event} (he : e ∈ (poll interval limit a radio).events) :
    isPolling e = true := by
  induction limit generalizing a radio with
  | zero => nomatch he
  | succ limit ih =>
    cases h : Link.isTerminal (Radio.status radio).value with
    | true =>
      rw [poll_succ_of_terminal h] at he
      obtain he | he := List.mem_append.1 he
      · exact isPolling_of_mem_asked he
      · unfold conclude at he
        split at he <;> simp only [List.mem_cons, List.not_mem_nil, or_false] at he <;>
          obtain rfl | rfl := he <;> rfl
    | false =>
      rw [poll_succ_of_not_terminal h] at he
      obtain he | he := List.mem_append.1 he
      · exact isPolling_of_mem_asked he
      · obtain rfl | rfl | he := by simpa only [List.mem_cons] using he
        · rfl
        · rfl
        · exact ih he

/-- An attempt activates the radio once, at its beginning. -/
theorem run_events (limit : Nat) (network : Credentials) (interval : Duration)
    (earlier : Association) (radio : ρ) :
    ∃ rest, (run limit network interval earlier radio).events =
      .lamp true :: .report (.activating network.ssid) :: .activate network.ssid :: rest ∧
        ∀ e ∈ rest, isPolling e = true := by
  unfold run
  dsimp only
  split
  · refine ⟨_, rfl, fun e he => ?_⟩
    obtain he | he := List.mem_append.1 he
    · exact isPolling_of_mem_effects he
    · rw [List.mem_singleton.1 he]
      rfl
  · refine ⟨_, rfl, fun e he => ?_⟩
    obtain he | he := List.mem_append.1 he
    · exact isPolling_of_mem_effects he
    · exact isPolling_of_mem_poll he

end Association
end Liveness
