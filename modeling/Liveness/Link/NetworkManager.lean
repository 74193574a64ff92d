import Liveness.Link.Radio
import Liveness.Text.Basic
import Liveness.Text.Numeral
import Liveness.Text.Utf8

/-! The NetworkManager radio, driven through a command-line client. NetworkManager falls back to
"disconnected" after a failed attempt, which looks like "not started yet"; so the radio remembers
whether it has seen progress, and reports that fallback as a failure. -/
namespace Liveness
open Text

inductive CommandAnswer where
  | exited (status : ExitStatus) (stdout stderr : List UInt8)
  | hangs
  | unstartable (fault : Net.Fault)
deriving DecidableEq, Repr

/-- The radio and the answers that its client will give: `answers` in order, then always `later`. -/
structure NetworkManager where
  interface : Option String
  program : String
  seenProgress : Bool
  downPolls : Nat
  answers : List CommandAnswer
  later : CommandAnswer
deriving DecidableEq, Repr

namespace NetworkManager

/-- The bound on one run of the client, in seconds. -/
def commandSecs : Nat := 15

/-- Polls in "disconnected" after which the join is presumed never to have started. -/
def downGrace : Nat := 15

def new (interface : Option String) (program : String) (answers : List CommandAnswer)
    (later : CommandAnswer) : NetworkManager :=
  ⟨interface, program, false, 0, answers, later⟩

/-- Runs the client once. Arguments that no program can be given are not even tried. -/
def run (nm : NetworkManager) (arguments : List String) :
    Answer NetworkManager (Except RadioError String) :=
  let next := { nm with answers := nm.answers.tail }
  if (nm.program :: arguments).any holdsZero then
    ⟨.error (.command nm.program .zeroInArgument), nm, [.calls arguments false]⟩
  else match nm.answers.headD nm.later with
  | .unstartable fault =>
    ⟨.error (.command nm.program fault), next, [.calls arguments false]⟩
  | .hangs =>
    ⟨.error (.timeout nm.program commandSecs), next,
      [.calls arguments true, .takes (.ofSecs commandSecs)]⟩
  | .exited status stdout stderr =>
    let result :=
      if status.success then .ok (Utf8.decodeLossy stdout)
      else .error (.activation (.exited nm.program status (trim (Utf8.decodeLossy stderr))))
    ⟨result, next, [.calls arguments true]⟩

/-- The device of the first line whose type, the text after its last colon, is `wifi`. -/
def firstWifiDevice? (listing : String) : Option String :=
  (splitAt (· == '\n') listing.toList).findSome? fun line =>
    match cutLast? ':' line with
    | some (device, kind) =>
      if dropAround isBlank kind = "wifi".toList then some (String.ofList device) else none
    | none => none

/-- The number that a device state begins with. -/
def deviceState? (raw : String) : Option Nat :=
  (words raw.toList).head?.bind fun w => (readNumeral max32 w).toOption

/-- The first address of a list, without its network length. -/
def firstAddress? (raw : String) : Option String :=
  let pieces := (splitAt (fun c => c == '|' || c == '\n') raw.toList).map (dropAround isBlank)
  (pieces.find? (! ·.isEmpty)).map fun s => String.ofList (s.takeWhile (· != '/'))

def linkStatus (state : Nat) : Int :=
  if state = 100 then Link.up
  else if state = 70 ∨ state = 80 ∨ state = 90 then Link.noAddress
  else if state = 40 ∨ state = 50 ∨ state = 60 then Link.joining
  else if state = 30 then Link.down
  else if state = 10 ∨ state = 20 then Link.noNetwork
  else Link.failed

/-- The interface in use: the configured or remembered one, else the first Wi-Fi device of a
listing, which is then remembered. -/
def useInterface (nm : NetworkManager) : Answer NetworkManager (Except RadioError String) :=
  match nm.interface with
  | some name => .pure nm (.ok name)
  | none =>
    (nm.run ["-t", "-f", "DEVICE,TYPE", "device"]).bind fun nm result =>
      match result with
      | .error e => .pure nm (.error e)
      | .ok listing =>
        match firstWifiDevice? listing with
        | none => .pure nm (.error (.activation .noDevice))
        | some name => .pure { nm with interface := some name } (.ok name)

def connectArguments (network : Credentials) (interface : String) : List String :=
  ["--wait", "0", "device", "wifi", "connect", network.ssid] ++
    (if network.secret = "" then [] else ["password", network.secret]) ++ ["ifname", interface]

def queryArguments (property interface : String) : List String :=
  ["-t", "-g", property, "device", "show", interface]

/-- Powers Wi-Fi on and starts joining; the first command that fails ends it. -/
def activate (nm : NetworkManager) (network : Credentials) :
    Answer NetworkManager (Except RadioError Unit) :=
  let nm := { nm with seenProgress := false, downPolls := 0 }
  (nm.run ["radio", "wifi", "on"]).bind fun nm result =>
    match result with
    | .error e => .pure nm (.error e)
    | .ok _ =>
      nm.useInterface.bind fun nm result =>
        match result with
        | .error e => .pure nm (.error e)
        | .ok name =>
          (nm.run (connectArguments network name)).bind fun nm result =>
            .pure nm (result.map fun _ => ())

/-- Counts a poll: a "disconnected" after progress is a failure, and too many before it mean that
the join never started. -/
def poll (nm : NetworkManager) (status : Int) : NetworkManager × Int :=
  if status = Link.down then
    if nm.seenProgress then (nm, Link.failed)
    else
      let nm := { nm with downPolls := nm.downPolls + 1 }
      (nm, if downGrace < nm.downPolls then Link.noNetwork else status)
  else ({ nm with seenProgress := true }, status)

/-- The link status of the device in use. Whatever hides it counts as a failure. -/
def status (nm : NetworkManager) : Answer NetworkManager Int :=
  nm.useInterface.bind fun nm result =>
    match result with
    | .error e => ⟨Link.failed, nm, [.reports (.interfaceUnknown e.message)]⟩
    | .ok name =>
      (nm.run (queryArguments "GENERAL.STATE" name)).bind fun nm result =>
        match result with
        | .error e => ⟨Link.failed, nm, [.reports (.statusUnknown e.message)]⟩
        | .ok raw =>
          match deviceState? raw with
          | none => ⟨Link.failed, nm, [.reports (.unreadableState (trim raw))]⟩
          | some state =>
            let (nm, status) := nm.poll (linkStatus state)
            .pure nm status

def address (nm : NetworkManager) : Answer NetworkManager (Option String) :=
  nm.useInterface.bind fun nm result =>
    match result with
    | .error _ => .pure nm none
    | .ok name =>
      (nm.run (queryArguments "IP4.ADDRESS" name)).bind fun nm result =>
        .pure nm (result.toOption.bind firstAddress?)

instance : Radio NetworkManager := ⟨activate, status, address⟩

end NetworkManager
end Liveness
