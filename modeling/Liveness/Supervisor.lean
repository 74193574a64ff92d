import Liveness.Agent.Config
import Liveness.Association
import Liveness.Probe.Prober

/-! The supervisor: associate until the link is up, then probe for ever. Every failure becomes
"wait the named backoff and retry", and a failed probe never leads back to association.

The indicator is on while something blocking is in flight. Before a sleep it is off after a success
and held on after a failure, so a healthy device blinks once per cycle and a failing one stays
lit. -/
namespace Liveness

inductive StepOutcome where
  | associated (address : Option String)
  | associationFailed (status : Int)
  | activationFailed (message : String)
  | probed (probe : ProbeOutcome)
deriving DecidableEq, Repr

def StepOutcome.isFailure : StepOutcome → Bool
  | .associated _ => false
  | .associationFailed _ | .activationFailed _ => true
  | .probed probe => !probe.succeeded

/-- What a step did, the phase that follows, and the wait before it. -/
structure StepReport where
  phase : Phase
  outcome : StepOutcome
  next : Phase
  backoff : Duration
deriving DecidableEq, Repr

structure Supervisor (ρ π : Type) where
  config : AgentConfig
  radio : ρ
  prober : π
  association : Association
  phase : Phase
  streak : Nat
  probes : Nat

/-- One step up to its end, or up to the limit on its polls: then there is no report. -/
structure Step (ρ π : Type) where
  report : Option StepReport
  supervisor : Supervisor ρ π
  events : List Event

/-- From this many consecutive failures on they are reported as errors. -/
def failureStreakAlert : Nat := 5

namespace Supervisor
variable {ρ π : Type}

def new (config : AgentConfig) (radio : ρ) (prober : π) : Supervisor ρ π :=
  ⟨config, radio, prober, .new, .needAssociation, 0, 0⟩

def noteFailure (s : Supervisor ρ π) (kind : FailureKind) (error : String) :
    Supervisor ρ π × Event :=
  let s := { s with streak := s.streak + 1 }
  (s, .report (if failureStreakAlert ≤ s.streak then .stillFailing s.phase kind s.streak error
    else .stepFailed s.phase kind s.streak error))

variable [Radio ρ] [Prober π]

def associate (limit : Nat) (s : Supervisor ρ π) : Step ρ π :=
  let attempt := s.association.run limit s.config.network s.config.backoff.pollInterval s.radio
  let s := { s with association := attempt.association, radio := attempt.radio }
  match attempt.outcome with
  | none => ⟨none, s, attempt.events⟩
  | some (.associated _) =>
    let answer := Radio.address s.radio
    let s := { s with streak := 0, radio := answer.next }
    ⟨some ⟨.needAssociation, .associated answer.value, .needProbe, .zero⟩, s,
      attempt.events ++ .address :: answer.events ++
        [.report (.linkUp s.config.network.ssid answer.value)]⟩
  | some (.rejected status) =>
    let (s, noted) := s.noteFailure .association ("link status " ++ toString status)
    ⟨some ⟨.needAssociation, .associationFailed status, .needAssociation,
      s.config.backoff.associationFailed⟩, s, attempt.events ++ [.lamp true, noted]⟩
  | some (.activationFailed e) =>
    let (s, noted) := s.noteFailure .association e.message
    ⟨some ⟨.needAssociation, .activationFailed e.message, .needAssociation,
      s.config.backoff.activationError⟩, s, attempt.events ++ [.lamp true, noted]⟩

/-- One probe. A success is reported where it is the first probe or ends a streak of failures. -/
def probe (s : Supervisor ρ π) : Step ρ π :=
  let answer := Prober.probe s.prober
  let s := { s with prober := answer.next, probes := s.probes + 1 }
  let asked := .lamp true :: .probe :: answer.events
  let outcome := StepOutcome.probed (.ofResult answer.value)
  match answer.value with
  | .ok line =>
    let news :=
      if 0 < s.streak ∨ s.probes = 1 then [.report (.reachable line.text s.streak)] else []
    ⟨some ⟨.needProbe, outcome, .needProbe, s.config.backoff.probeInterval⟩,
      { s with streak := 0 }, asked ++ .lamp false :: news⟩
  | .error e =>
    let (s, noted) := s.noteFailure e.kind e.message
    ⟨some ⟨.needProbe, outcome, .needProbe, s.config.backoff.probeFailed⟩, s, asked ++ [noted]⟩

/-- Runs the current phase once, with at most `limit` polls, and does not sleep. -/
def step (limit : Nat) (s : Supervisor ρ π) : Step ρ π :=
  let done := match s.phase with
    | .needAssociation => s.associate limit
    | .needProbe => s.probe
  match done.report with
  | none => done
  | some report =>
    let news := if report.next = s.phase then [] else [.report (.phaseChange s.phase report.next)]
    { done with
      supervisor := { done.supervisor with phase := report.next }
      events := done.events ++ news }

def summary (s : Supervisor ρ π) : String :=
  let phase := match s.phase with
    | .needAssociation => "NeedAssociation"
    | .needProbe => "NeedProbe"
  "Supervisor \x7b phase: " ++ phase ++ ", association: " ++ s.association.state.title ++
    ", streak: " ++ toString s.streak ++ ", probes: " ++ toString s.probes ++ ", .. \x7d"

end Supervisor
end Liveness
