import Liveness.Indicator
import Liveness.Program.Peer
import Liveness.Supervisor.Run

/-! A supervisor at work: its events happen one after another, on the real clock, until a signal
asks for the end. -/
namespace Liveness.Program

structure Surface where
  say : Notice → IO Unit
  stopped : IO Bool

def say (verbosity : Nat) (n : Notice) : IO Unit :=
  if n.isShown verbosity then IO.eprintln n.line else return

def switch (out : Surface) (on : Bool) : Indicator → IO Indicator
  | .remembered _ => return .remembered on
  | .device led => do
    let fault ← match (led.set on none).written with
      | none => pure none
      | some text =>
        match ← (IO.FS.writeFile led.brightness text).toBaseIO with
        | .ok () => pure none
        | .error e => pure (some (faultOf e))
    let switched := led.set on fault
    switched.notice.forM out.say
    return .device switched.led

/-- Passes time in small parts, until it is over or the run is to end. -/
partial def pause (stopped : IO Bool) (millis : Nat) : IO Unit := do
  if millis = 0 ∨ (← stopped) then return
  let part := min millis 50
  IO.sleep part.toUInt32
  pause stopped (millis - part)

/-- Lets an event happen. The time that a call took has passed already. -/
def play (out : Surface) (lamp : Indicator) : Event → IO Indicator
  | .lamp on => switch out on lamp
  | .report n | .effect (.reports n) => do out.say n; return lamp
  | .pollWait d => do pause (return false) d.asWait.millis; return lamp
  | _ => return lamp

def pollBound : Nat := 1000000

/-- Steps and waits until the end is asked for. A probe's lamp is lit before its peer is met. -/
partial def supervise {ρ : Type} [Radio ρ] (out : Surface) (s : Supervisor ρ HttpProber)
    (lamp : Indicator) : IO Unit := do
  if ← out.stopped then
    let _ ← s.ending.foldlM (play out) lamp
  else
    let (s, lamp) ← match s.phase with
      | .needAssociation => pure (s, lamp)
      | .needProbe =>
        let lamp ← switch out true lamp
        let found ← network s.prober.request s.prober.transport
        pure ({ s with prober := { s.prober with network := found } }, lamp)
    let done := s.step pollBound
    let lamp ← done.events.foldlM (play out) lamp
    match done.report with
    | none => supervise out done.supervisor lamp
    | some report =>
      pause out.stopped report.backoff.asWait.millis
      let lamp ← if ← out.stopped then pure lamp else report.release.foldlM (play out) lamp
      supervise out done.supervisor lamp

def run {ρ : Type} [Radio ρ] (out : Surface) (agent : AgentConfig) (radio : ρ)
    (target : IndicatorTarget) : IO Unit := do
  let prober : HttpProber := ⟨agent.probe, agent.transport, ⟨Net.lookupNumeric, fun _ => mutePeer⟩⟩
  let s := Supervisor.new agent radio prober
  supervise out s (← s.opening.foldlM (play out) target.indicator)

end Liveness.Program
