import Liveness.Indicator
import Liveness.Proofs.Event.Lamp
import Mathlib.Data.List.TakeWhile

/-! A LED that skips redundant writes, beside a plain one that attempts to write at every call. What
the LED remembers are facts about the writes that it has attempted: what its file shows, and whether
an outage is under way. Its file is the one that the plain LED leaves. -/
namespace Liveness
open Net

namespace Led

/-- A call: what is asked for, and why a write would fail at the time, if it would. -/
structure Call where
  on : Bool
  fault : Option Fault
deriving DecidableEq, Repr

/-- An attempt to write to a LED's file, and why it failed, if it did. -/
structure Write where
  text : String
  fault : Option Fault
deriving DecidableEq, Repr

/-- The write that a call asks for. A plain LED attempts it whatever it shows. -/
def Call.write (c : Call) : Write := ⟨brightnessText c.on, c.fault⟩

namespace Write

def succeeds (w : Write) : Bool := w.fault.isNone

/-- The file after some writes. One that fails leaves it as it was. -/
def onto (file : LedFile) (writes : List Write) : LedFile :=
  writes.foldl (fun file w => if w.succeeds then .content w.text else file) file

def lastStored? (writes : List Write) : Option String :=
  (writes.filter succeeds).getLast?.map text

/-- The failures before the first success, between one and the next, and after the last, where there
are any. -/
def outages (writes : List Write) : List (List Write) :=
  (Text.splitAt succeeds writes).filter (! ·.isEmpty)

variable {w : Write}

theorem onto_cons (file : LedFile) (w : Write) (writes : List Write) :
    onto file (w :: writes) = onto (if w.succeeds then .content w.text else file) writes := rfl

theorem onto_append (file : LedFile) (first second : List Write) :
    onto file (first ++ second) = onto (onto file first) second := List.foldl_append

@[simp] theorem lastStored?_concat (writes : List Write) (w : Write) :
    lastStored? (writes ++ [w]) = if w.succeeds then some w.text else lastStored? writes := by
  unfold lastStored?
  rw [List.filter_append]
  by_cases h : w.succeeds <;> simp [h]

theorem outages_cons_of_succeeds (h : w.succeeds = true) (writes : List Write) :
    outages (w :: writes) = outages writes := by
  unfold outages
  rw [Text.splitAt, if_pos h, List.filter_cons_of_neg (by simp)]

/-- A failure begins an outage that lasts until the next success. -/
theorem outages_cons_of_fails (h : w.succeeds = false) (writes : List Write) :
    outages (w :: writes) = (w :: writes.takeWhile (! ·.succeeds)) ::
      outages (writes.dropWhile (! ·.succeeds)) := by
  have hblock : ∀ v ∈ w :: writes.takeWhile (! ·.succeeds), v.succeeds = false := by
    intro v hv
    obtain rfl | hv := List.mem_cons.1 hv
    · exact h
    · simpa using List.mem_takeWhile_imp hv
  have hsplit : w :: writes =
      (w :: writes.takeWhile (! ·.succeeds)) ++ writes.dropWhile (! ·.succeeds) := by
    rw [List.cons_append, List.takeWhile_append_dropWhile]
  have hhead := List.head?_dropWhile_not (fun v : Write => ! v.succeeds) writes
  cases hrest : writes.dropWhile (! ·.succeeds) with
  | nil =>
    rw [hsplit, hrest, List.append_nil]
    unfold outages
    rw [Text.splitAt_of_all_not hblock]
    rfl
  | cons success later =>
    have hsuccess : success.succeeds = true := by simpa [hrest] using hhead
    rw [outages_cons_of_succeeds hsuccess, hsplit, hrest]
    unfold outages
    rw [Text.splitAt_append_cons hblock hsuccess]
    rfl

end Write

@[simp] theorem Call.succeeds_write (c : Call) : c.write.succeeds = c.fault.isNone := rfl

@[simp] theorem Call.text_write (c : Call) : c.write.text = brightnessText c.on := rfl

structure Operated where
  led : Led
  writes : List Write
  notices : List Notice

def operate (led : Led) : List Call → Operated
  | [] => ⟨led, [], []⟩
  | c :: later =>
    let switched := led.set c.on c.fault
    let rest := switched.led.operate later
    ⟨rest.led, (switched.written.map (⟨·, c.fault⟩)).toList ++ rest.writes,
      switched.notice.toList ++ rest.notices⟩

inductive Operates : Led → List Call → Operated → Prop
  | nil (led : Led) : Operates led [] ⟨led, [], []⟩
  | skipped {led : Led} {c : Call} {later : List Call} {rest : Operated}
      (shown : led.on = some c.on) (goes : Operates led later rest) :
      Operates led (c :: later) rest
  | stored {led : Led} {c : Call} {later : List Call} {rest : Operated}
      (unshown : led.on ≠ some c.on) (success : c.fault = none)
      (goes : Operates { led with on := some c.on, warned := false } later rest) :
      Operates led (c :: later) { rest with writes := c.write :: rest.writes }
  | failed {led : Led} {c : Call} {later : List Call} {rest : Operated} {f : Fault}
      (unshown : led.on ≠ some c.on) (failure : c.fault = some f)
      (goes : Operates { led with warned := true } later rest) :
      Operates led (c :: later) { rest with
        writes := c.write :: rest.writes
        notices := (if led.warned then [] else [.ledStuck led.brightness f.message]) ++
          rest.notices }

variable {led : Led} {c : Call} {calls : List Call} {done : Operated} {file : LedFile}
  {past : List Write}

theorem operates_operate (led : Led) (calls : List Call) :
    Operates led calls (led.operate calls) := by
  induction calls generalizing led with
  | nil => exact .nil led
  | cons c calls ih =>
    by_cases hshown : led.on = some c.on
    · have hcons : led.operate (c :: calls) = led.operate calls := by
        simp [operate, set, hshown]
      rw [hcons]
      exact .skipped hshown (ih led)
    · cases hfault : c.fault with
      | none =>
        have hgoes :=
          Operates.stored hshown hfault (ih { led with on := some c.on, warned := false })
        simpa [operate, set, hshown, hfault, Call.write] using hgoes
      | some f =>
        have hgoes := Operates.failed hshown hfault (ih { led with warned := true })
        cases hwarned : led.warned <;>
          simpa [operate, set, hshown, hfault, hwarned, Call.write] using hgoes

theorem operate_append (led : Led) (first second : List Call) :
    led.operate (first ++ second) =
      let begun := led.operate first
      let rest := begun.led.operate second
      ⟨rest.led, begun.writes ++ rest.writes, begun.notices ++ rest.notices⟩ := by
  induction first generalizing led with
  | nil => rfl
  | cons c first ih =>
    rw [List.cons_append, operate, operate]
    dsimp only
    rw [ih]
    simp only [List.append_assoc]

theorem Operates.writes_one (h : Operates led [c] done) :
    done.writes = if led.on = some c.on then [] else [c.write] := by
  cases h with
  | skipped shown goes =>
    cases goes
    rw [if_pos shown]
  | stored unshown success goes =>
    cases goes
    rw [if_neg unshown]
  | failed unshown failure goes =>
    cases goes
    rw [if_neg unshown]

theorem brightnessText_inj {on other : Bool} :
    brightnessText on = brightnessText other ↔ on = other := by
  revert on other
  decide

/-- A skipped write would have changed nothing. -/
theorem Operates.onto_writes (h : Operates led calls done)
    (hfile : ∀ on, led.on = some on → file = .content (brightnessText on)) :
    Write.onto file done.writes = Write.onto file (calls.map Call.write) := by
  induction h generalizing file with
  | nil led => rfl
  | @skipped led c later rest shown goes ih =>
    -- The plain LED repeats what the file says, or fails.
    have hsame : (if c.write.succeeds then .content c.write.text else file) = file := by
      rw [hfile c.on shown]
      exact ite_self _
    rw [List.map_cons, Write.onto_cons, hsame]
    exact ih hfile
  | @stored led c later rest unshown success goes ih =>
    have hsucceeds : c.write.succeeds = true := by simp [success]
    rw [List.map_cons, Write.onto_cons, Write.onto_cons, if_pos hsucceeds]
    apply ih
    intro on hon
    rw [← Option.some.inj hon]
    rfl
  | @failed led c later rest f unshown failure goes ih =>
    have hfails : ¬ c.write.succeeds = true := by simp [failure]
    rw [List.map_cons, Write.onto_cons, Write.onto_cons, if_neg hfails]
    exact ih hfile

/-- A LED writes nothing that the plain one would not. -/
theorem Operates.writes_sublist (h : Operates led calls done) :
    done.writes.Sublist (calls.map Call.write) := by
  induction h with
  | nil led => exact .slnil
  | skipped shown goes ih => exact ih.cons _
  | stored unshown success goes ih => exact ih.cons_cons _
  | failed unshown failure goes ih => exact ih.cons_cons _

theorem Operates.on_eq (h : Operates led calls done)
    (hon : led.on.map brightnessText = Write.lastStored? past) :
    done.led.on.map brightnessText = Write.lastStored? (past ++ done.writes) := by
  induction h generalizing past with
  | nil led => rwa [List.append_nil]
  | skipped shown goes ih => exact ih hon
  | @stored led c later rest unshown success goes ih =>
    rw [List.append_cons]
    apply ih
    simp [success]
  | @failed led c later rest f unshown failure goes ih =>
    rw [List.append_cons]
    apply ih
    simpa [failure] using hon

/-- The report of an outage gives the fault with which it begins. -/
def Reports (path : String) (outage : List Write) (notice : Notice) : Prop :=
  ∃ f, outage.head?.bind Write.fault = some f ∧ notice = .ledStuck path f.message

/-- The writes whose failures are to be reported: an outage under way has been. -/
def unreported (led : Led) (writes : List Write) : List Write :=
  if led.warned then writes.dropWhile (! ·.succeeds) else writes

/-- Each outage is reported once. -/
theorem Operates.reports (h : Operates led calls done) :
    List.Forall₂ (Reports led.brightness) (Write.outages (led.unreported done.writes))
      done.notices := by
  induction h with
  | nil led =>
    have hnone : Write.outages (led.unreported []) = [] := by
      unfold unreported
      split_ifs <;> rfl
    rw [hnone]
    exact .nil
  | skipped shown goes ih => exact ih
  | @stored led c later rest unshown success goes ih =>
    have hsucceeds : c.write.succeeds = true := by simp [success]
    have hall : led.unreported (c.write :: rest.writes) = c.write :: rest.writes := by
      unfold unreported
      split_ifs <;> simp [hsucceeds]
    rw [hall, Write.outages_cons_of_succeeds hsucceeds]
    exact ih
  | @failed led c later rest f unshown failure goes ih =>
    have hfails : c.write.succeeds = false := by simp [failure]
    cases hwarned : led.warned with
    | true =>
      -- The failure belongs to the outage under way.
      simpa [unreported, hwarned, hfails] using ih
    | false =>
      -- The failure begins an outage, and what else fails before a success belongs to it.
      have hall : led.unreported (c.write :: rest.writes) = c.write :: rest.writes := by
        simp [unreported, hwarned]
      rw [hall, Write.outages_cons_of_fails hfails]
      exact .cons ⟨f, failure, rfl⟩ ih

theorem countP_reports {path : String} {outages : List (List Write)} {notices : List Notice}
    (h : List.Forall₂ (Reports path) outages notices) :
    notices.countP (fun n => (n.message, n.level) = ("cannot switch LED", .warn)) =
      outages.length := by
  induction h with
  | nil => rfl
  | cons hreport _ ih =>
    obtain ⟨f, -, rfl⟩ := hreport
    rw [List.countP_cons, ih]
    rfl

/-- A LED that skips redundant writes, from its first call on. (A LED that is given by its name is
the one of a directory.) Whatever its calls so far and their faults, its file is the one that a
plain LED leaves, it is on where the last write that succeeded is a one, the next call is written
unless it would repeat that write, and each outage so far was reported once. -/
theorem skipping_unseen (directory : String) (file : LedFile) (calls : List Call) :
    let led : Led := .ofDirectory directory
    let done := led.operate calls
    Write.onto file done.writes = Write.onto file (calls.map Call.write) ∧
      (done.led.isOn = true ↔ Write.lastStored? done.writes = some "1") ∧
      (∀ c : Call, (led.operate (calls ++ [c])).writes = done.writes ++
        if Write.lastStored? done.writes = some (brightnessText c.on) then [] else [c.write]) ∧
      done.notices.countP (fun n => (n.message, n.level) = ("cannot switch LED", .warn)) =
        (Write.outages done.writes).length := by
  intro led done
  have hgoes : Operates led calls done := operates_operate led calls
  have hon : done.led.on.map brightnessText = Write.lastStored? ([] ++ done.writes) :=
    hgoes.on_eq rfl
  rw [List.nil_append] at hon
  have hshown (on : Bool) :
      done.led.on = some on ↔ Write.lastStored? done.writes = some (brightnessText on) := by
    rw [← hon]
    cases done.led.on <;> simp [brightnessText_inj]
  refine ⟨hgoes.onto_writes nofun, ?_, fun c => ?_, ?_⟩
  · rw [← show brightnessText true = "1" from rfl, ← hshown]
    cases h : done.led.on with
    | none => simp [isOn, h]
    | some on => simp [isOn, h]
  · rw [operate_append]
    dsimp only
    rw [(operates_operate done.led [c]).writes_one]
    simp only [done, hshown]
  · exact countP_reports hgoes.reports

/-- A call that is skipped ends no outage. -/
example :
    let done := (ofDirectory "led").operate [⟨true, none⟩, ⟨false, some .isDirectory⟩,
      ⟨true, none⟩, ⟨false, some .isDirectory⟩]
    done.writes.map Write.text = ["1", "0", "0"] ∧ done.notices.length = 1 := by decide

end Led

namespace Indicator
open Led
variable {file : LedFile}

def calls (fault : Option Fault) (events : List Event) : List Call :=
  events.filterMap fun
    | .lamp on => some ⟨on, fault⟩
    | _ => none

theorem set_device (on : Bool) (file : LedFile) (led : Led) :
    let done := led.operate [⟨on, file.fault?⟩]
    Indicator.set on file (.device led) =
      (.device done.led, Write.onto file done.writes, done.notices.head?) := by
  simp only [Indicator.set, operate]
  generalize led.set on file.fault? = switched
  cases hwritten : switched.written <;> cases hnotice : switched.notice <;>
    cases hfault : file.fault? <;> simp [Write.onto, Write.succeeds]

/-- Neither a success nor a failure changes whether the file can be written. -/
theorem fault?_onto {writes : List Write} (h : ∀ w ∈ writes, w.fault = file.fault?) :
    (Write.onto file writes).fault? = file.fault? := by
  induction writes generalizing file with
  | nil => rfl
  | cons w writes ih =>
    obtain ⟨hw, hlater⟩ := List.forall_mem_cons.1 h
    rw [Write.onto_cons]
    split_ifs with hsucceeds
    · have hnone : file.fault? = none := by simpa [Write.succeeds, hw] using hsucceeds
      rw [hnone] at hlater ⊢
      exact ih hlater
    · exact ih hlater

/-- A LED in a run is one that gets the run's calls. -/
theorem follow_device (led : Led) (file : LedFile) (events : List Event) :
    let done := led.operate (calls file.fault? events)
    follow events (.device led, file) = (.device done.led, Write.onto file done.writes) := by
  induction events generalizing led file with
  | nil => rfl
  | cons e events ih =>
    cases e with
    | lamp on =>
      let begun := led.operate [⟨on, file.fault?⟩]
      have hwrites : ∀ w ∈ begun.writes, w.fault = file.fault? := by
        intro w hw
        have hmem := (operates_operate led [⟨on, file.fault?⟩]).writes_sublist.subset hw
        rw [List.map_singleton, List.mem_singleton] at hmem
        rw [hmem]
        rfl
      have hfollow : follow (.lamp on :: events) (.device led, file) =
          follow events (.device begun.led, Write.onto file begun.writes) := by
        change follow events ((Indicator.set on file (.device led)).1,
          (Indicator.set on file (.device led)).2.1) = _
        rw [set_device]
      have hcalls : calls file.fault? (.lamp on :: events) =
          [⟨on, file.fault?⟩] ++ calls file.fault? events := rfl
      rw [hfollow, ih, fault?_onto hwrites, hcalls, operate_append, ← Write.onto_append]
    | _ => exact ih led file

theorem onto_calls (file : LedFile) (lamp : Option Bool) (events : List Event) :
    Write.onto ((lamp.map fun on => .content (brightnessText on)).getD file)
        ((calls none events).map Call.write) =
      ((Event.lampAfter lamp events).map fun on => .content (brightnessText on)).getD file := by
  induction events generalizing lamp with
  | nil => rfl
  | cons e events ih =>
    cases e with
    | lamp on => exact ih (some on)
    | _ => exact ih lamp

/-- After a run the file of a LED, if it can be written, shows what the indicator was commanded
last. -/
theorem follow_file (directory : String) (h : file.fault? = none) (events : List Event) :
    (follow events (.device (.ofDirectory directory), file)).2 =
      ((Event.lampAfter none events).map fun on => .content (brightnessText on)).getD file := by
  rw [follow_device, h]
  dsimp only
  rw [(operates_operate (.ofDirectory directory) (calls none events)).onto_writes nofun]
  exact onto_calls file none events

end Indicator
end Liveness
