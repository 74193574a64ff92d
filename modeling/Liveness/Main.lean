import Liveness.CommandLine.Execution
import Liveness.Link.NetworkManager
import Liveness.Program.Supervision
import Std.Async.Signal

/-! The program. Variables, the settings file, peers and the LED's file are met here and nowhere
else. No other program is ever started, so NetworkManager's client counts as one that cannot be. -/
namespace Liveness.Program
open CommandLine Std.Async

def bytes? (path : String) : IO (Option (List UInt8)) := do
  return (← (IO.FS.readBinFile path).toBaseIO).toOption.map ByteArray.toList

/-- The bytes of the file that a path leads to, here or in a directory around here. -/
def fileBytes? (path : String) : IO (Option (List UInt8)) := do
  let here ← IO.currentDir
  for place in Path.places here.toString path do
    if let .ok found ← (here / place).metadata.toBaseIO then
      if found.type == .file then return ← bytes? place
  return none

/-- A file as text, or no text. -/
def text (path : String) : IO String := do
  return (Text.Utf8.decode? ((← bytes? path).getD [])).getD ""

def accountHome : IO (Option String) := do
  let lines := Text.splitAt (· == '\n') (← text "/proc/self/status").toList
  match lines.map (Text.words · |>.map String.ofList) |>.find? (·.head? == some "Uid:") with
  | some (_ :: number :: _) => return Settings.accountHome? (← text "/etc/passwd") number
  | _ => return none

def environment : IO Settings.Environment := do
  return .ofBlock ((← bytes? "/proc/self/environ").getD [])

/-- What an invocation finds around it. Only a single probe needs the network beforehand. -/
def surroundings (environment : Settings.Environment) (i : Invocation) : IO Surroundings := do
  let accountHome ← accountHome
  let path := i.given.file accountHome environment
  let bytes ← fileBytes? path
  let here : Surroundings :=
    ⟨environment, accountHome, fun other => if other = path then bytes else none,
      ⟨Net.lookupNumeric, fun _ => mutePeer⟩⟩
  match i.command, i.given.probeAgent here with
  | .probe, .ok agent => return { here with network := ← network agent.probe agent.transport }
  | _, _ => return here

/-- Runs a supervisor until it is interrupted or terminated. -/
def work (verbosity : Nat) (agent : AgentConfig) (target : IndicatorTarget) : IO Unit := do
  let signals ← [Signal.sigint, Signal.sigterm].mapM fun s => Signal.Waiter.mk s false
  let arrived (w : Signal.Waiter) : IO Bool := do IO.hasFinished (← w.wait)
  let out : Surface := ⟨say verbosity, signals.anyM arrived⟩
  match agent.link with
  | .fixed => run out agent FixedLink.mk target
  | .networkManager interface =>
    let fault := Net.Fault.stated "other programs are not started"
    run out agent (NetworkManager.new interface "nmcli" [] (.unstartable fault)) target

def print (o : Outcome) : IO UInt32 := do
  IO.print o.stdout
  IO.eprint o.stderr
  return o.exit.toUInt32

end Liveness.Program

open Liveness Liveness.Program in
def main (words : List String) : IO UInt32 := do
  let environment ← environment
  match CommandLine.read environment words with
  | .error stop => print (stop.outcome environment)
  | .ok i =>
    match i.perform (← surroundings environment i) with
    | .ended outcome => print outcome
    | .supervises agent target =>
      work i.given.verbosity agent target
      return 0
