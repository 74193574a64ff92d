import Liveness.Supervisor

/-! A supervisor's whole run: step after step with the reported waits between them, until it is
cancelled. Cancellation is noticed between steps and cuts a wait short; a step in flight ends as it
would have ended.

Waits and deadlines end here exactly when they are due, to the nanosecond. A timer that counts whole
milliseconds ends them at the next one. -/
namespace Liveness

/-- Where the cancellation of a run stands: the clock will never cancel it, the clock will after
some time, or somebody has. -/
inductive Cancellation where
  | never
  | due (left : Duration)
  | done
deriving DecidableEq, Repr

namespace Cancellation

/-- A run that the clock cancels some time after its start, or after the longest wait. One that is
cancelled at once is cancelled before it starts. -/
def ofDeadline : Option Duration → Cancellation
  | none => .never
  | some d => if d.isZero then .done else .due d.asWait

def byClock : Event := .effect (.cancels .clock)

def firstPart (d : Duration) : Event → Event
  | .effect (.takes _) => .effect (.takes d)
  | .pollWait _ => .pollWait d
  | .rest _ => .rest d
  | e => e

/-- What is left of a stretch of time after the first `d`. -/
def lastPart (d : Duration) (e : Event) : List Event :=
  if e.span = d then [] else [.effect (.takes ⟨e.span.nanos - d.nanos⟩)]

/-- The events of a step with the clock's cancellation at its place among them, and how the
cancellation stands afterwards. Time due at the end of an event comes before the next one. -/
def pass : Cancellation → List Event → List Event × Cancellation
  | .done, es => (es, .done)
  | c, [] => ([], c)
  | c, e :: es =>
    if e.canceller?.isSome then (e :: es, .done)
    else match c with
      | .due left =>
        if e.span.nanos = 0 ∨ e.span.nanos < left.nanos then
          let (es, c) := pass (.due ⟨left.nanos - e.span.nanos⟩) es
          (e :: es, c)
        else (firstPart left e :: byClock :: lastPart left e ++ es, .done)
      | c => let (es, c) := pass c es; (e :: es, c)

/-- A wait between steps, and how the cancellation stands if the wait ends by itself. A wait that
is cut short leads to no further step. -/
def sleep (wait : Duration) : Cancellation → List Event × Option Cancellation
  | .done => ([], if wait.isZero then some .done else none)
  | .never => (if wait.isZero then [] else [.rest wait], some .never)
  | .due left =>
    if wait.isZero then ([], some (.due left))
    else if wait.asWait.nanos < left.nanos then
      ([.rest wait], some (.due ⟨left.nanos - wait.asWait.nanos⟩))
    else ([.rest left, byClock], none)

end Cancellation

/-- What happens before the step after this one: a failure's indicator is released. -/
def StepReport.release (r : StepReport) : List Event :=
  if r.outcome.isFailure then [.lamp false] else []

/-- A run up to its end, or up to the horizon on its steps: then it is not finished. -/
structure Run (ρ π : Type) where
  supervisor : Supervisor ρ π
  events : List Event
  finished : Bool

namespace Supervisor
variable {ρ π : Type}

def opening (s : Supervisor ρ π) : List Event := [.report (.started s.config.probe.baseUrl)]

def ending (s : Supervisor ρ π) : List Event := [.lamp false, .report (.stopped s.probes)]

variable [Radio ρ] [Prober π]

/-- Steps and waits until the cancellation, at most as many as `horizon` says. -/
def loop (limit : Nat) : Nat → Cancellation → Supervisor ρ π → Run ρ π
  | _, .done, s => ⟨s, [], true⟩
  | 0, _, s => ⟨s, [], false⟩
  | horizon + 1, c, s =>
    let done := s.step limit
    let (events, c) := c.pass done.events
    match done.report with
    | none => ⟨done.supervisor, events, false⟩
    | some report =>
      match c.sleep report.backoff with
      | (slept, none) => ⟨done.supervisor, events ++ slept, true⟩
      | (slept, some c) =>
        let rest := loop limit horizon c done.supervisor
        { rest with events := events ++ slept ++ report.release ++ rest.events }

/-- Runs until cancelled: by the clock after `deadline`, or by its radio or prober. -/
def run (limit horizon : Nat) (deadline : Option Duration) (s : Supervisor ρ π) : Run ρ π :=
  let rest := loop limit horizon (.ofDeadline deadline) s
  let ending := if rest.finished then rest.supervisor.ending else []
  { rest with events := s.opening ++ rest.events ++ ending }

end Supervisor
end Liveness
