import Liveness.Event
import Liveness.StatusLine

/-! Probers: what a supervisor asks for one liveness probe at a time. -/
namespace Liveness

/-- A prober makes one attempt per call and does not retry. -/
class Prober (π : Type) where
  probe : π → Answer π (Except ProbeError StatusLine)

structure ScriptedProbe where
  delay : Duration
  cancels : Bool
  result : Except ProbeError StatusLine

/-- A prober that plays prepared probes. A probe beyond them times out and cancels the run. -/
structure ScriptedProber where
  probes : List ScriptedProbe

instance : Prober ScriptedProber where
  probe p :=
    match p.probes with
    | [] => ⟨.error (.timeout .connect (.ofSecs 3)), p, [.cancels .exhaustion]⟩
    | probe :: rest =>
      ⟨probe.result, ⟨rest⟩,
        .takes probe.delay :: if probe.cancels then [.cancels .script] else []⟩

structure ProbeOutcome where
  succeeded : Bool
  statusLine : Option String
  failure : Option FailureKind
deriving DecidableEq, Repr

def ProbeOutcome.ofResult : Except ProbeError StatusLine → ProbeOutcome
  | .ok line => ⟨true, some line.text, none⟩
  | .error e => ⟨false, none, some e.kind⟩

end Liveness
