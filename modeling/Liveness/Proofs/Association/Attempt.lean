import Liveness.Proofs.Association.Polling

/-! An attempt as a function of what its radio answers: the statuses it reads, the sleeps between
them, and where it ends. Nothing of it comes from the attempts before. -/
namespace Liveness

namespace Event

def code? : Event → Option Int
  | .status code => some code
  | _ => none

def sleep? : Event → Option Duration
  | .pollWait span | .rest span => some span
  | _ => none

theorem filterMap_events {σ α β : Type} {f : Event → Option β}
    (hf : ∀ effect, f (.effect effect) = none) (answer : Answer σ α) :
    answer.events.filterMap f = [] := by
  rw [List.filterMap_eq_nil_iff]
  intro e he
  obtain ⟨effect, -, rfl⟩ := List.mem_map.1 he
  exact hf effect

end Event

namespace Association
open Event
variable {ρ : Type} {interval : Duration} {limit n : Nat} {a : Association} {radio : ρ}

def stateOf (status : Int) : AssociationState := if status = Link.up then .associated else .failed

theorem conclude_state (status : Int) :
    (a.conclude radio status).association.state = stateOf status := by
  unfold conclude stateOf
  split_ifs <;> rfl

theorem filterMap_conclude (a : Association) (radio : ρ) (status : Int) :
    (a.conclude radio status).events.filterMap code? = [] ∧
      (a.conclude radio status).events.filterMap sleep? = [] := by
  unfold conclude
  split_ifs <;> exact ⟨rfl, rfl⟩

variable [Radio ρ]

theorem filterMap_asked (radio : ρ) :
    (asked radio).filterMap code? = [(Radio.status radio).value] ∧
      (asked radio).filterMap sleep? = [] := by
  have hcode := filterMap_events (f := code?) (fun _ => rfl) (Radio.status radio)
  have hsleep := filterMap_events (f := sleep?) (fun _ => rfl) (Radio.status radio)
  unfold asked
  constructor
  · rw [List.filterMap_append, List.filterMap_cons_none rfl, hcode]
    rfl
  · rw [List.filterMap_append, List.filterMap_cons_none rfl, hsleep]
    rfl

/-- Polling up to the first terminal status: what it reads, how often it sleeps, and what it notes. -/
theorem poll_settles (interval : Duration) (a : Association) (hn : n < limit)
    (hunsettled : Radio.Unsettled n radio)
    (hterminal : Link.isTerminal (Radio.statusAt n radio) = true) :
    let attempt := poll interval limit a radio
    attempt.association.state = stateOf (Radio.statusAt n radio) ∧
      attempt.events.filterMap code? = (List.range (n + 1)).map (Radio.statusAt · radio) ∧
      attempt.events.filterMap sleep? = List.replicate n interval := by
  obtain ⟨hcode, hsleep⟩ := filterMap_asked radio
  induction n generalizing a radio limit with
  | zero =>
    obtain ⟨limit, rfl⟩ := Nat.exists_eq_succ_of_ne_zero (Nat.ne_of_gt hn)
    have hfirst : Link.isTerminal (Radio.status radio).value = true := hterminal
    rw [poll_succ_of_terminal hfirst]
    obtain ⟨hcode', hsleep'⟩ := filterMap_conclude (a.heard (Radio.status radio).value)
      (Radio.status radio).next (Radio.status radio).value
    refine ⟨conclude_state _, ?_, ?_⟩
    · rw [List.filterMap_append, hcode, hcode']
      rfl
    · rw [List.filterMap_append, hsleep, hsleep']
      rfl
  | succ n ih =>
    obtain ⟨limit, rfl⟩ := Nat.exists_eq_succ_of_ne_zero (Nat.ne_of_gt (Nat.zero_lt_of_lt hn))
    obtain ⟨hfirst, hlater⟩ := Radio.unsettled_succ_iff.1 hunsettled
    rw [poll_succ_of_not_terminal hfirst]
    obtain ⟨hcode', hsleep'⟩ := filterMap_asked (Radio.status radio).next
    obtain ⟨hstate, hcodes, hsleeps⟩ := ih (a.heard (Radio.status radio).value)
      (Nat.lt_of_succ_lt_succ hn) hlater hterminal hcode' hsleep'
    refine ⟨hstate, ?_, ?_⟩
    · -- The radio after the first poll reads the statuses from the second on.
      rw [List.filterMap_append, hcode, List.range_succ_eq_map, List.map_cons, List.map_map]
      exact congrArg ((Radio.status radio).value :: ·) hcodes
    · rw [List.filterMap_append, hsleep, List.replicate_succ]
      exact congrArg (interval :: ·) hsleeps

theorem isTerminal_iff {status : Int} :
    Link.isTerminal status = true ↔ status < 0 ∨ Link.up ≤ status := by
  simp [Link.isTerminal]

theorem unsettled_iff :
    Radio.Unsettled n radio ↔
      ∀ i < n, 0 ≤ Radio.statusAt i radio ∧ Radio.statusAt i radio < Link.up := by
  have hiff (status : Int) : Link.isTerminal status = false ↔ 0 ≤ status ∧ status < Link.up := by
    rw [Bool.eq_false_iff, Ne, isTerminal_iff, not_or, Int.not_lt, Int.not_le]
  simp only [Radio.Unsettled, hiff]

theorem run_earlier (limit : Nat) (network : Credentials) (interval : Duration)
    (earlier other : Association) (radio : ρ) :
    run limit network interval other radio = run limit network interval earlier radio := by
  unfold run
  cases (Radio.activate radio network).value <;> rfl

theorem filterMap_begun (network : Credentials) (radio : ρ) :
    let begun := .lamp true :: .report (.activating network.ssid) :: .activate network.ssid ::
      (Radio.activate radio network).events
    begun.filterMap code? = [] ∧ begun.filterMap sleep? = [] :=
  ⟨filterMap_events (f := code?) (fun _ => rfl) _, filterMap_events (f := sleep?) (fun _ => rfl) _⟩

theorem filterMap_run_of_activated {network : Credentials} (limit : Nat) (interval : Duration)
    (earlier : Association) (h : (Radio.activate radio network).value = .ok ()) :
    let begun : Association := { earlier with lastStatus := none, polls := 0, state := .associating }
    let polled := poll interval limit begun (Radio.activate radio network).next
    let attempt := run limit network interval earlier radio
    attempt.events.filterMap code? = polled.events.filterMap code? ∧
      attempt.events.filterMap sleep? = polled.events.filterMap sleep? := by
  obtain ⟨hcode, hsleep⟩ := filterMap_begun network radio
  unfold run
  dsimp only at hcode hsleep ⊢
  rw [h]
  dsimp only
  rw [List.filterMap_append, List.filterMap_append, hcode, hsleep]
  exact ⟨rfl, rfl⟩

theorem run_quiet_of_refused {network : Credentials} {e : RadioError} (limit : Nat)
    (interval : Duration) (earlier : Association)
    (h : (Radio.activate radio network).value = .error e) :
    let attempt := run limit network interval earlier radio
    attempt.association = ⟨.failed, none, 0⟩ ∧ attempt.events.filterMap code? = [] ∧
      attempt.events.filterMap sleep? = [] := by
  obtain ⟨hcode, hsleep⟩ := filterMap_begun network radio
  unfold run
  dsimp only at hcode hsleep ⊢
  rw [h]
  dsimp only
  rw [List.filterMap_append, List.filterMap_append, hcode, hsleep]
  exact ⟨rfl, rfl, rfl⟩

/-- An attempt that activates its radio ends with the first terminal status, after as many sleeps as
there are statuses before it, and reads none behind it; one that does not polls nothing. A bound on
the polls above that changes nothing, and neither do earlier attempts. -/
theorem run_settles (limit : Nat) (network : Credentials) (interval : Duration)
    (earlier : Association) (radio : ρ) :
    let started := Radio.activate radio network
    let attempt := run limit network interval earlier radio
    (∀ other, run limit network interval other radio = attempt) ∧
    (∀ e, started.value = .error e →
      attempt.outcome = some (.activationFailed e) ∧ attempt.association = ⟨.failed, none, 0⟩ ∧
      attempt.radio = started.next ∧ attempt.events.filterMap code? = [] ∧
      attempt.events.filterMap sleep? = []) ∧
    ∀ k < limit, started.value = .ok () →
      (∀ i < k, 0 ≤ Radio.statusAt i started.next ∧ Radio.statusAt i started.next < Link.up) →
      (Radio.statusAt k started.next < 0 ∨ Link.up ≤ Radio.statusAt k started.next) →
      attempt.radio = Radio.polled (k + 1) started.next ∧
      attempt.events.filterMap code? = (List.range (k + 1)).map (Radio.statusAt · started.next) ∧
      attempt.events.filterMap sleep? = List.replicate k interval ∧
      (Radio.statusAt k started.next = Link.up →
        attempt.outcome = some (.associated Link.up) ∧
        attempt.association = ⟨.associated, some Link.up, k + 1⟩) ∧
      (Radio.statusAt k started.next ≠ Link.up →
        attempt.outcome = some (.rejected (Radio.statusAt k started.next)) ∧
        attempt.association = ⟨.failed, some (Radio.statusAt k started.next), k + 1⟩) := by
  intro started attempt
  refine ⟨fun other => run_earlier limit network interval earlier other radio, fun e herror => ?_,
    fun k hk hok hbefore hterminal => ?_⟩
  · obtain ⟨houtcome, hradio⟩ := run_of_refused limit interval earlier herror
    obtain ⟨hassociation, hcodes, hsleeps⟩ := run_quiet_of_refused limit interval earlier herror
    exact ⟨houtcome, hassociation, hradio, hcodes, hsleeps⟩
  · obtain ⟨houtcome, hassociation, hradio⟩ := run_of_activated limit interval earlier hok
    obtain ⟨hcodes, hsleeps⟩ := filterMap_run_of_activated limit interval earlier hok
    have hunsettled := unsettled_iff.2 hbefore
    have hended := isTerminal_iff.2 hterminal
    obtain ⟨hended₁, hended₂, hpolls, hlast⟩ := poll_of_settled interval
      { earlier with lastStatus := none, polls := 0, state := .associating } hk hunsettled hended
    obtain ⟨hstate, hcodes', hsleeps'⟩ := poll_settles interval
      { earlier with lastStatus := none, polls := 0, state := .associating } hk hunsettled hended
    have hend : attempt.association = ⟨stateOf (Radio.statusAt k started.next),
        some (Radio.statusAt k started.next), k + 1⟩ := by
      rw [← hassociation] at hstate hlast hpolls
      rw [← hstate, ← hlast, ← Nat.zero_add (k + 1), ← hpolls]
    have hresult : attempt.outcome = some (outcomeOf (Radio.statusAt k started.next)) :=
      houtcome.trans hended₁
    refine ⟨hradio.trans hended₂, hcodes.trans hcodes', hsleeps.trans hsleeps', fun hup => ?_,
      fun hdown => ?_⟩
    · rw [hresult, hend, hup]
      exact ⟨rfl, rfl⟩
    · rw [hresult, hend, outcomeOf, stateOf, if_neg hdown, if_neg hdown]
      exact ⟨rfl, rfl⟩

/-- After an attempt that failed, one that is up at its fourth poll and leaves a status unread. -/
theorem run_settles_unread :
    let network : Credentials := ⟨"lab", "hunter22"⟩
    let earlier : Association := ⟨.failed, some Link.badSecret, 7⟩
    let radio : ScriptedRadio := ⟨[], [0, 0, 2, 3, -1], none, .zero⟩
    let started := Radio.activate radio network
    let attempt := run 9 network (.ofSecs 1) earlier radio
    started.value = .ok () ∧
      (∀ i < 3, 0 ≤ Radio.statusAt i started.next ∧ Radio.statusAt i started.next < Link.up) ∧
      Radio.statusAt 3 started.next = Link.up ∧
      attempt.outcome = some (.associated Link.up) ∧
      attempt.association = ⟨.associated, some Link.up, 4⟩ ∧
      attempt.radio.statuses = [-1] ∧ attempt.events.filterMap code? = [0, 0, 2, 3] ∧
      attempt.events.filterMap sleep? = List.replicate 3 (.ofSecs 1) := by
  intro network earlier radio started attempt
  have hok : started.value = .ok () := rfl
  have hbefore : ∀ i < 3, 0 ≤ Radio.statusAt i started.next ∧
      Radio.statusAt i started.next < Link.up := by decide
  have hup : Radio.statusAt 3 started.next = Link.up := rfl
  obtain ⟨-, -, hended⟩ := run_settles 9 network (.ofSecs 1) earlier radio
  obtain ⟨hradio, hcodes, hsleeps, hjoined, -⟩ :=
    hended 3 (by decide) hok hbefore (.inr (Int.le_of_eq hup.symm))
  obtain ⟨houtcome, hassociation⟩ := hjoined hup
  have hunread : attempt.radio.statuses = [-1] := congrArg ScriptedRadio.statuses hradio
  exact ⟨hok, hbefore, hup, houtcome, hassociation, hunread, hcodes, hsleeps⟩

end Association
end Liveness
