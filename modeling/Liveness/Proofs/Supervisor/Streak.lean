import Liveness.Proofs.Supervisor.Phases
import Mathlib.Data.List.DropRight

/-! What a supervisor says of its failures. It counts them and its probes and remembers nothing else
of a run, yet what it reports of a step is a fact about all the steps before it. -/
namespace Liveness

namespace Event

/-- The supervisor's own word on a step: that it failed, or that the monitor answers. -/
def isVerdict : Event → Bool
  | .report notice => notice.message ∈ ["step failed", "still failing", "monitor reachable"]
  | _ => false

@[simp] theorem isVerdict_lamp (on : Bool) : isVerdict (.lamp on) = false := rfl

@[simp] theorem isVerdict_probe : isVerdict .probe = false := rfl

@[simp] theorem isVerdict_effect (effect : Effect) : isVerdict (.effect effect) = false := rfl

end Event

namespace StepOutcome

def isProbe : StepOutcome → Bool
  | .probed _ => true
  | _ => false

/-- The consecutive failures with which a history ends. -/
def failures (past : List StepOutcome) : Nat := (past.rtakeWhile isFailure).length

def probesIn (past : List StepOutcome) : List StepOutcome := past.filter isProbe

variable {past : List StepOutcome}

@[simp] theorem failures_nil : failures [] = 0 := rfl

@[simp] theorem failures_concat (past : List StepOutcome) (outcome : StepOutcome) :
    failures (past ++ [outcome]) = if outcome.isFailure then failures past + 1 else 0 := by
  unfold failures
  rw [List.rtakeWhile_concat]
  split_ifs <;> simp

theorem failures_le_length (past : List StepOutcome) : failures past ≤ past.length :=
  (List.rtakeWhile_suffix _ _).length_le

/-- The number of failures and the length together tell whether a failure or nothing precedes. -/
theorem failures_pos_or_eq_nil_iff :
    0 < failures past ∨ past.length = 0 ↔ ∀ last ∈ past.getLast?, last.isFailure = true := by
  induction past using List.reverseRecOn with
  | nil => simp
  | append_singleton past last _ =>
    cases hlast : last.isFailure <;> simp [hlast]

@[simp] theorem probesIn_concat (past : List StepOutcome) (outcome : StepOutcome) :
    probesIn (past ++ [outcome]) =
      if outcome.isProbe then probesIn past ++ [outcome] else probesIn past := by
  unfold probesIn
  rw [List.filter_append]
  cases h : outcome.isProbe <;> simp [h]

end StepOutcome

open StepOutcome

/-- What a step counts and says, given what the steps before it observed. -/
structure Ended.Tells {ρ π : Type} (past : List StepOutcome) (e : Ended ρ π) : Prop where
  streak : e.after.streak = failures (past ++ [e.report.outcome])
  /-- A counter of 32 bits holds the streak for as long as there are fewer than `2 ^ 32` steps. -/
  bounded : e.after.streak ≤ past.length + 1
  failure : e.report.outcome.isFailure = true →
    ∃ notice, e.events.filter Event.isVerdict = [.report notice] ∧
      notice.fields.lookup "streak" =
        some (.number (failures (past ++ [e.report.outcome]))) ∧
      (notice.message, notice.level) =
        if 5 ≤ failures (past ++ [e.report.outcome]) then ("still failing", .error)
        else ("step failed", .warn)
  /-- A probe that succeeds as the first one or after one that failed. -/
  reachable : e.report.outcome.isProbe = true → e.report.outcome.isFailure = false →
    (∀ last ∈ (probesIn past).getLast?, last.isFailure = true) →
    ∃ notice, e.events.filter Event.isVerdict = [.report notice] ∧
      notice.fields.lookup "after_failures" = some (.number (failures (probesIn past))) ∧
      (notice.message, notice.level) = ("monitor reachable", .info)
  silent : e.report.outcome.isFailure = false →
    ¬ (e.report.outcome.isProbe = true ∧
      ∀ last ∈ (probesIn past).getLast?, last.isFailure = true) →
    e.events.filter Event.isVerdict = []

namespace Supervisor
open Event
variable {ρ π : Type} {limit : Nat} {s t u : Supervisor ρ π} {report : StepReport}
  {events : List Event} {trace : List (Ended ρ π)} {past : List StepOutcome}

/-- What a supervisor's counts say of the steps it has taken. -/
structure Recalls (past : List StepOutcome) (s : Supervisor ρ π) : Prop where
  streak : s.streak = failures past
  probes : s.probes = (probesIn past).length
  unprobed : s.phase = .needAssociation → probesIn past = []
  /-- Association ends with a success, so that no attempt's failure is counted among the probes'. -/
  separate : s.phase = .needProbe → failures (probesIn past) = failures past

theorem recalls_new (config : AgentConfig) (radio : ρ) (prober : π) :
    (new config radio prober).Recalls [] where
  streak := rfl
  probes := rfl
  unprobed _ := rfl
  separate _ := rfl

theorem failureNotice_isVerdict (phase : Phase) (kind : FailureKind) (streak : Nat)
    (error : String) : isVerdict (.report (failureNotice phase kind streak error)) = true := by
  unfold failureNotice
  split_ifs <;> simp [isVerdict, Notice.message]

theorem failureNotice_fields_streak (phase : Phase) (kind : FailureKind) (streak : Nat)
    (error : String) :
    (failureNotice phase kind streak error).fields.lookup "streak" = some (.number streak) := by
  unfold failureNotice
  split_ifs <;> rfl

theorem failureNotice_message_level (phase : Phase) (kind : FailureKind) (streak : Nat)
    (error : String) :
    ((failureNotice phase kind streak error).message,
      (failureNotice phase kind streak error).level) =
      if 5 ≤ streak then ("still failing", .error) else ("step failed", .warn) := by
  unfold failureNotice failureStreakAlert
  split_ifs <;> rfl

@[simp] theorem filter_events_isVerdict {σ α : Type} (answer : Answer σ α) :
    answer.events.filter isVerdict = [] := by
  rw [← List.length_eq_zero_iff, ← List.countP_eq_length_filter]
  exact countP_events _ answer isVerdict_effect

/-- In the probe phase a success is news where the probe before it failed, or where none precedes. -/
theorem Recalls.reachableNotices_eq (hs : s.Recalls past) (hphase : s.phase = .needProbe)
    (line : StatusLine) :
    s.reachableNotices line =
      if ∀ last ∈ (probesIn past).getLast?, last.isFailure = true then
        [.report (.reachable line.text (failures (probesIn past)))]
      else [] := by
  have hstreak : s.streak = failures (probesIn past) := hs.streak.trans (hs.separate hphase).symm
  unfold reachableNotices
  rw [hstreak, hs.probes]
  simp only [failures_pos_or_eq_nil_iff]

variable [Radio ρ]

theorem filter_attempt_isVerdict (limit : Nat) (s : Supervisor ρ π) :
    (s.attempt limit).events.filter isVerdict = [] := by
  rw [← List.length_eq_zero_iff, ← List.countP_eq_length_filter, countP_attempt]
  · simp [isVerdict, Notice.message]
  · intro e he
    cases e with
    | report notice =>
      cases notice <;> simp [isVerdict, Notice.message, Association.isPolling] at he ⊢
    | _ => rfl

variable [Prober π]

/-- Every failure is counted and reported with the count. -/
theorem StepEnds.of_isFailure (h : StepEnds limit s report t events)
    (hfailure : report.outcome.isFailure = true) :
    t.streak = s.streak + 1 ∧ ∃ phase kind error, events.filter isVerdict =
      [.report (failureNotice phase kind (s.streak + 1) error)] := by
  have hattempt := filter_attempt_isVerdict limit s
  have hnotice := failureNotice_isVerdict
  cases h with
  | associated phase outcome asked => nomatch hfailure
  | @rejected status phase outcome =>
    refine ⟨rfl, .needAssociation, .association, "link status " ++ toString status, ?_⟩
    rw [List.filter_append, hattempt]
    simp [hnotice]
  | @activationFailed e phase outcome =>
    refine ⟨rfl, .needAssociation, .association, e.message, ?_⟩
    rw [List.filter_append, hattempt]
    simp [hnotice]
  | succeeded phase asked value =>
    rw [value] at hfailure
    nomatch hfailure
  | @failed answer e phase asked value =>
    refine ⟨rfl, .needProbe, e.kind, e.message, ?_⟩
    rw [List.filter_append]
    simp [hnotice]

/-- Every success ends the count, and only a probe's is reported. -/
theorem StepEnds.of_not_isFailure (h : StepEnds limit s report t events)
    (hsuccess : report.outcome.isFailure = false) :
    t.streak = 0 ∧ (report.outcome.isProbe = false → events.filter isVerdict = []) ∧
      (report.outcome.isProbe = true → s.phase = .needProbe ∧
        ∃ line, events.filter isVerdict = s.reachableNotices line) := by
  have hattempt := filter_attempt_isVerdict limit s
  cases h with
  | associated phase outcome asked =>
    refine ⟨rfl, fun _ => ?_, nofun⟩
    rw [List.filter_append, List.filter_append, hattempt]
    simp [isVerdict, Notice.message]
  | rejected phase outcome => nomatch hsuccess
  | activationFailed phase outcome => nomatch hsuccess
  | @succeeded answer line phase asked value =>
    refine ⟨rfl, nofun, fun _ => ⟨phase, line, ?_⟩⟩
    unfold reachableNotices
    split_ifs <;> simp [isVerdict, Notice.message]
  | failed phase asked value =>
    rw [value] at hsuccess
    nomatch hsuccess

/-- A step leaves the counts true of the history with its own outcome. -/
theorem StepEnds.recalls (h : StepEnds limit s report t events) (hs : s.Recalls past) :
    t.Recalls (past ++ [report.outcome]) := by
  obtain ⟨hstreak, hprobes, hunprobed, hseparate⟩ := hs
  cases h with
  | associated phase outcome asked =>
    have hnone := hunprobed phase
    constructor <;> simp [attempted, hprobes, hnone, isFailure, StepOutcome.isProbe]
  | rejected phase outcome =>
    have hnone := hunprobed phase
    constructor <;> simp [attempted, phase, hstreak, hprobes, hnone, isFailure, StepOutcome.isProbe]
  | activationFailed phase outcome =>
    have hnone := hunprobed phase
    constructor <;> simp [attempted, phase, hstreak, hprobes, hnone, isFailure, StepOutcome.isProbe]
  | @succeeded answer line phase asked value =>
    rw [value]
    constructor <;> simp [phase, hprobes, isFailure, StepOutcome.isProbe, ProbeOutcome.ofResult]
  | @failed answer e phase asked value =>
    have hbroken := hseparate phase
    rw [value]
    constructor <;> simp [phase, hstreak, hprobes, hbroken, isFailure, StepOutcome.isProbe,
      ProbeOutcome.ofResult]

/-- A step whose supervisor recalls the steps before it tells of them. -/
theorem StepEnds.tells (h : StepEnds limit s report t events) (hs : s.Recalls past) :
    Ended.Tells past ⟨s, report, t, events⟩ := by
  have hstreak := (h.recalls hs).streak
  refine ⟨hstreak, ?_, fun hfailure => ?_, fun hprobe hsuccess hnews => ?_,
    fun hsuccess hold => ?_⟩
  · have hbound := failures_le_length (past ++ [report.outcome])
    rw [List.length_append, List.length_singleton] at hbound
    change t.streak ≤ _
    omega
  · obtain ⟨hcount, phase, kind, error, hverdict⟩ := h.of_isFailure hfailure
    refine ⟨_, hverdict, ?_, ?_⟩
    · rw [failureNotice_fields_streak, ← hcount, hstreak]
    · rw [failureNotice_message_level, ← hcount, hstreak]
  · obtain ⟨-, -, hprobed⟩ := h.of_not_isFailure hsuccess
    obtain ⟨hphase, line, hverdict⟩ := hprobed hprobe
    rw [hs.reachableNotices_eq hphase, if_pos hnews] at hverdict
    exact ⟨_, hverdict, rfl, rfl⟩
  · obtain ⟨-, hquiet, hprobed⟩ := h.of_not_isFailure hsuccess
    cases hprobe : report.outcome.isProbe with
    | false => exact hquiet hprobe
    | true =>
      obtain ⟨hphase, line, hverdict⟩ := hprobed hprobe
      rw [hs.reachableNotices_eq hphase, if_neg fun hnews => hold ⟨hprobe, hnews⟩] at hverdict
      exact hverdict

/-- Every step of a run tells of the steps before it in the run, and of those before the run. -/
theorem Steps.tells (h : Steps s trace u) (hs : s.Recalls past) :
    ∀ before e later, trace = before ++ e :: later →
      e.Tells (past ++ before.map (·.report.outcome)) := by
  induction h generalizing past with
  | nil s => simp
  | cons first later ih =>
    have hends := stepEnds_of_step first
    intro before e rest htrace
    cases before with
    | nil =>
      obtain ⟨rfl, -⟩ := List.cons.inj htrace
      simpa using hends.tells hs
    | cons d before =>
      obtain ⟨rfl, hrest⟩ := List.cons.inj htrace
      simpa using ih (hends.recalls hs) before e rest hrest

/-- What a supervisor's steps report of failures, from its first step on. -/
theorem streak_told {config : AgentConfig} {radio : ρ} {prober : π}
    (h : Steps (.new config radio prober) trace t) :
    ∀ before e later, trace = before ++ e :: later → e.Tells (before.map (·.report.outcome)) :=
  h.tells (recalls_new config radio prober)

theorem streak_told_recovery :
    let config : AgentConfig :=
      ⟨.fixed, ⟨"lab", ""⟩, ⟨"monitor", livenessPath, .get, none⟩, ⟨.disabled, .ofSecs 3⟩, .standard⟩
    let radio : ScriptedRadio := ⟨[], [Link.failed, Link.up], none, .zero⟩
    let prober : ScriptedProber := ⟨[⟨.zero, false, .error (.timeout .connect (.ofSecs 3))⟩,
      ⟨.zero, false, .ok ⟨"HTTP/1.0 200 OK"⟩⟩]⟩
    ∃ trace t, Steps (.new config radio prober) trace t ∧
      trace.map (·.report.outcome.isFailure) = [true, false, true, false] ∧
      ∀ before e later, trace = before ++ e :: later →
        e.Tells (before.map (·.report.outcome)) := by
  intro config radio prober
  let s₀ : Supervisor ScriptedRadio ScriptedProber := .new config radio prober
  let s₁ := (s₀.step 1).supervisor
  let s₂ := (s₁.step 1).supervisor
  let s₃ := (s₂.step 0).supervisor
  have hrejected : s₀.step 1 = ⟨some ⟨.needAssociation, .associationFailed Link.failed,
      .needAssociation, .ofSecs 10⟩, s₁, (s₀.step 1).events⟩ := rfl
  have hjoined : s₁.step 1 = ⟨some ⟨.needAssociation, .associated none, .needProbe, .zero⟩, s₂,
      (s₁.step 1).events⟩ := rfl
  have hunanswered : s₂.step 0 = ⟨some ⟨.needProbe, .probed ⟨false, none, some .timeout⟩,
      .needProbe, .ofSecs 4⟩, s₃, (s₂.step 0).events⟩ := rfl
  have hanswered : s₃.step 0 = ⟨some ⟨.needProbe, .probed ⟨true, some "HTTP/1.0 200 OK", none⟩,
      .needProbe, config.backoff.probeInterval⟩, (s₃.step 0).supervisor, (s₃.step 0).events⟩ := rfl
  have htrace := Steps.cons hrejected (.cons hjoined (.cons hunanswered (.cons hanswered (.nil _))))
  exact ⟨_, _, htrace, rfl, streak_told htrace⟩

end Supervisor
end Liveness
