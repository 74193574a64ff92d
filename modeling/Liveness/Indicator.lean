import Liveness.Event
import Liveness.Path

/-! Indicators: a lamp that is only remembered, and a LED that the system shows as a directory with
a file `brightness`. Switching is best effort; a broken LED stops nothing. -/
namespace Liveness
open Net

/-- What stands at the place of a LED's brightness file, if there is such a place at all. -/
inductive LedFile where
  | unreachable (fault : Fault)
  | absent
  | content (text : String)
  | directory
deriving DecidableEq, Repr

namespace LedFile

def fault? : LedFile → Option Fault
  | .unreachable fault => some fault
  | .directory => some .isDirectory
  | .absent | .content _ => none

def text? : LedFile → Option String
  | .content text => some text
  | _ => none

end LedFile

/-- A LED. Redundant writes are skipped, and an outage is reported once. -/
structure Led where
  brightness : String
  on : Option Bool
  warned : Bool
deriving DecidableEq, Repr

structure Switched where
  led : Led
  written : Option String
  notice : Option Notice
deriving DecidableEq, Repr

namespace Led

def ofDirectory (directory : String) : Led := ⟨Path.below directory "brightness", none, false⟩

/-- The LED of a name in the system's directory of LEDs. -/
def ofName (name : String) : Led := .ofDirectory (Path.below "/sys/class/leds" name)

/-- What stands at the place of a LED's file before it is first written. -/
def file (tree : Place → Standing) (led : Led) : LedFile :=
  match Path.lead tree led.brightness with
  | .error fault => .unreachable fault
  | .ok place => if tree place = .directory then .directory else .absent

def brightnessText (on : Bool) : String := if on then "1" else "0"

def isOn (led : Led) : Bool := led.on.getD false

/-- Switches a LED; `fault` says why a write would fail. -/
def set (on : Bool) (fault : Option Fault) (led : Led) : Switched :=
  if led.on = some on then ⟨led, none, none⟩
  else match fault with
    | none => ⟨{ led with on := some on, warned := false }, some (brightnessText on), none⟩
    | some f =>
      ⟨{ led with warned := true }, some (brightnessText on),
        if led.warned then none else some (.ledStuck led.brightness f.message)⟩

end Led

/-- A lamp that is remembered and nothing else, or a LED. -/
inductive Indicator where
  | remembered (on : Bool)
  | device (led : Led)
deriving DecidableEq, Repr

namespace Indicator

def isOn : Indicator → Bool
  | .remembered on => on
  | .device led => led.isOn

/-- Switches an indicator whose file, if it has one, is `file`; gives what is reported. -/
def set (on : Bool) (file : LedFile) : Indicator → Indicator × LedFile × Option Notice
  | .remembered _ => (.remembered on, file, none)
  | .device led =>
    let switched := led.set on file.fault?
    (.device switched.led, match switched.written, file.fault? with
      | some text, none => .content text
      | _, _ => file, switched.notice)

/-- An indicator and its file after all switches of a run. -/
def follow (events : List Event) (start : Indicator × LedFile) : Indicator × LedFile :=
  events.foldl (fun (lamp, file) e =>
    match e with
    | .lamp on => let (lamp, file, _) := lamp.set on file; (lamp, file)
    | _ => (lamp, file)) start

end Indicator

inductive IndicatorTarget where
  | logOnly
  | named (name : String)
  | path (directory : String)
deriving DecidableEq, Repr

namespace IndicatorTarget

/-- The indicator that a setting names: a text with a slash is a directory, any other a LED's
name, and no text at all means no LED. -/
def ofSetting (led : Option String) : IndicatorTarget :=
  let text := Text.trim (led.getD "")
  if text = "" then .logOnly
  else if '/' ∈ text.toList then .path text
  else .named text

def indicator : IndicatorTarget → Indicator
  | .logOnly => .remembered false
  | .named name => .device (.ofName name)
  | .path directory => .device (.ofDirectory directory)

end IndicatorTarget
end Liveness
