import Liveness.Proofs.Association.Polling
import Liveness.Supervisor

/-! What a supervisor's step can do. Whatever is proved of every step is proved of these cases. -/
namespace Liveness

/-- What may happen in a step: neither the sleep after it nor what a run reports at its start and at
its end. -/
def Event.isOfStep : Event → Bool
  | .rest _ | .report (.started _) | .report (.stopped _) => false
  | _ => true

theorem Event.isOfStep_of_isPolling {e : Event} (h : Association.isPolling e = true) :
    e.isOfStep = true := by
  cases e with
  | rest span => nomatch h
  | report notice => cases notice <;> first | rfl | nomatch h
  | _ => rfl

namespace Supervisor
open Event
variable {ρ π : Type}

def failureNotice (phase : Phase) (kind : FailureKind) (streak : Nat) (error : String) : Notice :=
  if failureStreakAlert ≤ streak then .stillFailing phase kind streak error
  else .stepFailed phase kind streak error

@[simp] theorem noteFailure_eq (s : Supervisor ρ π) (kind : FailureKind) (error : String) :
    s.noteFailure kind error = ({ s with streak := s.streak + 1 },
      .report (failureNotice s.phase kind (s.streak + 1) error)) := rfl

theorem failureNotice_isOfStep (phase : Phase) (kind : FailureKind) (streak : Nat)
    (error : String) : isOfStep (.report (failureNotice phase kind streak error)) = true := by
  unfold failureNotice
  split_ifs <;> rfl

theorem isOfStep_of_mem_events {σ α : Type} (answer : Answer σ α) :
    ∀ e ∈ answer.events, e.isOfStep = true := by
  intro e he
  obtain ⟨effect, -, rfl⟩ := List.mem_map.1 he
  rfl

theorem countP_events {σ α : Type} (p : Event → Bool) (answer : Answer σ α)
    (hp : ∀ e, p (.effect e) = false) : answer.events.countP p = 0 := by
  rw [Answer.events, List.countP_map, List.countP_eq_zero]
  intro e _
  rw [Function.comp_apply, hp e]
  exact Bool.false_ne_true

section
variable [Radio ρ]

def attempt (limit : Nat) (s : Supervisor ρ π) : Attempt ρ :=
  s.association.run limit s.config.network s.config.backoff.pollInterval s.radio

/-- What polling does not do happens in an attempt at its activation or never. -/
theorem countP_attempt (p : Event → Bool)
    (hp : ∀ e, Association.isPolling e = true → p e = false) (limit : Nat) (s : Supervisor ρ π) :
    let ssid := s.config.network.ssid
    (s.attempt limit).events.countP p =
      [Event.report (.activating ssid), .activate ssid].countP p := by
  intro ssid
  obtain ⟨rest, hevents, hrest⟩ := Association.run_events limit s.config.network
    s.config.backoff.pollInterval s.association s.radio
  have hlamp : ¬ p (.lamp true) = true := by
    rw [hp _ rfl]
    exact Bool.false_ne_true
  have hquiet : rest.countP p = 0 := by
    rw [List.countP_eq_zero]
    intro e he
    rw [hp e (hrest e he)]
    exact Bool.false_ne_true
  rw [attempt, hevents, List.countP_cons_of_neg hlamp]
  change List.countP p ([_, _] ++ rest) = _
  rw [List.countP_append, hquiet, Nat.add_zero]

theorem isOfStep_of_mem_attempt (limit : Nat) (s : Supervisor ρ π) :
    ∀ e ∈ (s.attempt limit).events, e.isOfStep = true := by
  obtain ⟨rest, hevents, hrest⟩ := Association.run_events limit s.config.network
    s.config.backoff.pollInterval s.association s.radio
  rw [attempt, hevents]
  simp only [List.forall_mem_cons]
  exact ⟨rfl, rfl, rfl, fun e he => isOfStep_of_isPolling (hrest e he)⟩

end

variable [Radio ρ] [Prober π]

def attempted (limit : Nat) (s : Supervisor ρ π) : Supervisor ρ π :=
  { s with association := (s.attempt limit).association, radio := (s.attempt limit).radio }

/-- The notices of a successful probe: there is one where it is the first or ends a streak. -/
def reachableNotices (s : Supervisor ρ π) (line : StatusLine) : List Event :=
  if 0 < s.streak ∨ s.probes = 0 then [.report (.reachable line.text s.streak)] else []

/-- The steps that end, with their report, the supervisor afterwards, and their events. -/
inductive StepEnds (limit : Nat) (s : Supervisor ρ π) :
    StepReport → Supervisor ρ π → List Event → Prop
  | associated {status : Int} {address : Answer ρ (Option String)}
      (phase : s.phase = .needAssociation)
      (outcome : (s.attempt limit).outcome = some (.associated status))
      (asked : address = Radio.address (s.attempt limit).radio) :
      StepEnds limit s ⟨.needAssociation, .associated address.value, .needProbe, .zero⟩
        { s.attempted limit with radio := address.next, streak := 0, phase := .needProbe }
        ((s.attempt limit).events ++ .address :: address.events ++
          [.report (.linkUp s.config.network.ssid address.value),
            .report (.phaseChange .needAssociation .needProbe)])
  | rejected {status : Int}
      (phase : s.phase = .needAssociation)
      (outcome : (s.attempt limit).outcome = some (.rejected status)) :
      StepEnds limit s ⟨.needAssociation, .associationFailed status, .needAssociation,
          s.config.backoff.associationFailed⟩
        { s.attempted limit with streak := s.streak + 1 }
        ((s.attempt limit).events ++ [.lamp true, .report (failureNotice .needAssociation
          .association (s.streak + 1) ("link status " ++ toString status))])
  | activationFailed {e : RadioError}
      (phase : s.phase = .needAssociation)
      (outcome : (s.attempt limit).outcome = some (.activationFailed e)) :
      StepEnds limit s ⟨.needAssociation, .activationFailed e.message, .needAssociation,
          s.config.backoff.activationError⟩
        { s.attempted limit with streak := s.streak + 1 }
        ((s.attempt limit).events ++ [.lamp true, .report (failureNotice .needAssociation
          .association (s.streak + 1) e.message)])
  | succeeded {answer : Answer π (Except ProbeError StatusLine)} {line : StatusLine}
      (phase : s.phase = .needProbe)
      (asked : answer = Prober.probe s.prober)
      (value : answer.value = .ok line) :
      StepEnds limit s ⟨.needProbe, .probed (.ofResult answer.value), .needProbe,
          s.config.backoff.probeInterval⟩
        { s with prober := answer.next, probes := s.probes + 1, streak := 0 }
        (.lamp true :: .probe :: answer.events ++ .lamp false :: s.reachableNotices line)
  | failed {answer : Answer π (Except ProbeError StatusLine)} {e : ProbeError}
      (phase : s.phase = .needProbe)
      (asked : answer = Prober.probe s.prober)
      (value : answer.value = .error e) :
      StepEnds limit s ⟨.needProbe, .probed (.ofResult answer.value), .needProbe,
          s.config.backoff.probeFailed⟩
        { s with prober := answer.next, probes := s.probes + 1, streak := s.streak + 1 }
        (.lamp true :: .probe :: answer.events ++
          [.report (failureNotice .needProbe e.kind (s.streak + 1) e.message)])

variable {limit : Nat} {s t : Supervisor ρ π} {report : StepReport} {events : List Event}

theorem stepEnds_of_step (h : s.step limit = ⟨some report, t, events⟩) :
    StepEnds limit s report t events := by
  cases hphase : s.phase with
  | needAssociation =>
    cases houtcome : (s.attempt limit).outcome with
    | none =>
      rw [attempt] at houtcome
      simp [step, associate, hphase, houtcome] at h
    | some outcome =>
      have hattempt := houtcome
      rw [attempt] at hattempt
      cases outcome with
      | associated status =>
        simp only [step, associate, hphase, hattempt, reduceCtorEq, if_false, Step.mk.injEq,
          Option.some.injEq] at h
        obtain ⟨rfl, rfl, rfl⟩ := h
        simpa [attempt, attempted] using StepEnds.associated hphase houtcome rfl
      | rejected status =>
        simp only [step, associate, hphase, hattempt, noteFailure_eq, if_true, List.append_nil,
          Step.mk.injEq, Option.some.injEq] at h
        obtain ⟨rfl, rfl, rfl⟩ := h
        simpa [attempt, attempted, hphase] using StepEnds.rejected hphase houtcome
      | activationFailed e =>
        simp only [step, associate, hphase, hattempt, noteFailure_eq, if_true, List.append_nil,
          Step.mk.injEq, Option.some.injEq] at h
        obtain ⟨rfl, rfl, rfl⟩ := h
        simpa [attempt, attempted, hphase] using StepEnds.activationFailed hphase houtcome
  | needProbe =>
    cases hvalue : (Prober.probe s.prober).value with
    | ok line =>
      simp only [step, probe, hphase, hvalue, if_true, List.append_nil, Step.mk.injEq,
        Option.some.injEq] at h
      obtain ⟨rfl, rfl, rfl⟩ := h
      have hends : StepEnds limit s _ _ _ := .succeeded hphase rfl hvalue
      simpa [hphase, hvalue, reachableNotices] using hends
    | error e =>
      simp only [step, probe, hphase, hvalue, noteFailure_eq, if_true, List.append_nil,
        Step.mk.injEq, Option.some.injEq] at h
      obtain ⟨rfl, rfl, rfl⟩ := h
      have hends : StepEnds limit s _ _ _ := .failed hphase rfl hvalue
      simpa [hphase, hvalue] using hends

theorem step_of_report_eq_none (h : (s.step limit).report = none) :
    (s.attempt limit).outcome = none ∧ (s.step limit).events = (s.attempt limit).events := by
  cases hphase : s.phase with
  | needAssociation =>
    cases houtcome : (s.attempt limit).outcome with
    | none =>
      rw [attempt] at houtcome ⊢
      simp [step, associate, hphase, houtcome]
    | some outcome =>
      rw [attempt] at houtcome
      cases outcome <;> simp [step, associate, hphase, houtcome] at h
  | needProbe =>
    cases hvalue : (Prober.probe s.prober).value <;> simp [step, probe, hphase, hvalue] at h

/-- A greater limit changes nothing about a step that has ended. -/
theorem step_of_le {most : Nat} (hended : (s.step limit).report ≠ none) (hle : limit ≤ most) :
    s.step most = s.step limit := by
  cases hphase : s.phase with
  | needProbe =>
    unfold step
    rw [hphase]
  | needAssociation =>
    have houtcome : (s.attempt limit).outcome ≠ none := by
      intro hnone
      apply hended
      rw [attempt] at hnone
      simp [step, associate, hphase, hnone]
    have hattempt : s.attempt most = s.attempt limit := Association.run_of_le houtcome hle
    unfold attempt at hattempt
    unfold step associate
    rw [hphase, hattempt]

theorem StepEnds.isOfStep (h : StepEnds limit s report t events) :
    ∀ e ∈ events, e.isOfStep = true := by
  have hattempt := isOfStep_of_mem_attempt limit s
  have hnotice := failureNotice_isOfStep
  cases h with
  | associated phase outcome asked =>
    simp only [List.forall_mem_append, List.forall_mem_cons]
    exact ⟨⟨hattempt, rfl, isOfStep_of_mem_events _⟩, rfl, rfl, nofun⟩
  | rejected phase outcome =>
    simp only [List.forall_mem_append, List.forall_mem_cons]
    exact ⟨hattempt, rfl, hnotice _ _ _ _, nofun⟩
  | activationFailed phase outcome =>
    simp only [List.forall_mem_append, List.forall_mem_cons]
    exact ⟨hattempt, rfl, hnotice _ _ _ _, nofun⟩
  | @succeeded answer line phase asked value =>
    have hnews : ∀ e ∈ s.reachableNotices line, e.isOfStep = true := by
      unfold reachableNotices
      split <;> simp [Event.isOfStep]
    simp only [List.forall_mem_append, List.forall_mem_cons]
    exact ⟨⟨rfl, rfl, isOfStep_of_mem_events _⟩, rfl, hnews⟩
  | failed phase asked value =>
    simp only [List.forall_mem_append, List.forall_mem_cons]
    exact ⟨⟨rfl, rfl, isOfStep_of_mem_events _⟩, hnotice _ _ _ _, nofun⟩

/-- Sleeps between steps, and a run's first report and its last one, are no part of a step. -/
theorem isOfStep_of_mem_step (limit : Nat) (s : Supervisor ρ π) :
    ∀ e ∈ (s.step limit).events, e.isOfStep = true := by
  cases hreport : (s.step limit).report with
  | none =>
    rw [(step_of_report_eq_none hreport).2]
    exact isOfStep_of_mem_attempt limit s
  | some report => exact (stepEnds_of_step (congrArg (Step.mk · _ _) hreport)).isOfStep

end Supervisor
end Liveness
