import Liveness.Link.NetworkManager
import Mathlib.Data.List.Basic

/-! What each operation of the NetworkManager radio leaves behind, and what its status query reads
once an activation has succeeded. -/
namespace Liveness

/-- The device state in an answer to the state query, where the query succeeds and reads one. -/
def CommandAnswer.reading? : CommandAnswer → Option Nat
  | .exited status stdout _ =>
    if status.success then NetworkManager.deviceState? (Text.Utf8.decodeLossy stdout) else none
  | .hangs => none
  | .unstartable _ => none

namespace NetworkManager
open Text
variable {nm : NetworkManager} {name : String} {network : Credentials} {state : Nat}

/-- What the client reads after `k` other runs of it. -/
def reading? (nm : NetworkManager) (k : Nat) : Option Nat :=
  (nm.answers.getD k nm.later).reading?

def ran (nm : NetworkManager) : NetworkManager := { nm with answers := nm.answers.tail }

/-- The interface is known, and the client can be asked about it. -/
structure Ready (nm : NetworkManager) (name : String) : Prop where
  interface : nm.interface = some name
  name : holdsZero name = false
  program : holdsZero nm.program = false

/-- What a successful activation leaves. -/
structure Begun (nm : NetworkManager) : Prop where
  ready : ∃ name, nm.Ready name
  seenProgress : nm.seenProgress = false
  downPolls : nm.downPolls = 0

theorem run_next (nm : NetworkManager) (arguments : List String) :
    (nm.run arguments).next = nm ∨ (nm.run arguments).next = nm.ran := by
  unfold run
  dsimp only
  split_ifs
  · exact .inl rfl
  · cases nm.answers.headD nm.later <;> exact .inr rfl

theorem run_keeps (nm : NetworkManager) (arguments : List String) :
    (nm.run arguments).next.interface = nm.interface ∧
      (nm.run arguments).next.program = nm.program ∧
      (nm.run arguments).next.seenProgress = nm.seenProgress ∧
      (nm.run arguments).next.downPolls = nm.downPolls := by
  obtain h | h := run_next nm arguments
  · rw [h]
    exact ⟨rfl, rfl, rfl, rfl⟩
  · rw [h]
    exact ⟨rfl, rfl, rfl, rfl⟩

theorem useInterface_keeps (nm : NetworkManager) :
    nm.useInterface.next.program = nm.program ∧
      nm.useInterface.next.seenProgress = nm.seenProgress ∧
      nm.useInterface.next.downPolls = nm.downPolls := by
  obtain ⟨-, hprogram, hseen, hdown⟩ := run_keeps nm ["-t", "-f", "DEVICE,TYPE", "device"]
  unfold useInterface
  cases nm.interface with
  | some name => exact ⟨rfl, rfl, rfl⟩
  | none =>
    dsimp only [Answer.bind]
    cases (nm.run ["-t", "-f", "DEVICE,TYPE", "device"]).value with
    | error e => exact ⟨hprogram, hseen, hdown⟩
    | ok listing =>
      dsimp only
      cases firstWifiDevice? listing <;> exact ⟨hprogram, hseen, hdown⟩

theorem useInterface_of_ok (h : nm.useInterface.value = .ok name) :
    nm.useInterface.next.interface = some name := by
  unfold useInterface at h ⊢
  cases hknown : nm.interface with
  | some known =>
    rw [hknown] at h
    obtain rfl := Except.ok.inj h
    exact hknown
  | none =>
    rw [hknown] at h
    dsimp only [Answer.bind] at h ⊢
    cases hvalue : (nm.run ["-t", "-f", "DEVICE,TYPE", "device"]).value with
    | error e =>
      rw [hvalue] at h
      nomatch h
    | ok listing =>
      rw [hvalue] at h
      dsimp only at h ⊢
      cases hdevice : firstWifiDevice? listing with
      | none =>
        rw [hdevice] at h
        nomatch h
      | some device =>
        rw [hdevice] at h
        obtain rfl := Except.ok.inj h
        rfl

theorem useInterface_of_ready (h : nm.Ready name) : nm.useInterface = .pure nm (.ok name) := by
  unfold useInterface
  rw [h.interface]

theorem not_holdsZero_of_run {arguments : List String} {output : String}
    (h : (nm.run arguments).value = .ok output) :
    ∀ s ∈ nm.program :: arguments, holdsZero s = false := by
  intro s hs
  by_contra hzero
  have hany : (nm.program :: arguments).any holdsZero = true :=
    List.any_eq_true.2 ⟨s, hs, Bool.not_eq_false _ ▸ hzero⟩
  unfold run at h
  rw [if_pos hany] at h
  nomatch h

/-- An activation forgets what earlier attempts left, however it ends. -/
theorem activate_resets (nm : NetworkManager) (network : Credentials) :
    (nm.activate network).next.seenProgress = false ∧
      (nm.activate network).next.downPolls = 0 := by
  unfold activate
  dsimp only [Answer.bind]
  obtain ⟨-, -, hseen, hdown⟩ :=
    run_keeps { nm with seenProgress := false, downPolls := 0 } ["radio", "wifi", "on"]
  generalize ({ nm with seenProgress := false, downPolls := 0 } : NetworkManager).run
    ["radio", "wifi", "on"] = powered at hseen hdown ⊢
  cases powered.value with
  | error e => exact ⟨hseen, hdown⟩
  | ok output =>
    dsimp only
    obtain ⟨-, hseen', hdown'⟩ := useInterface_keeps powered.next
    cases powered.next.useInterface.value with
    | error e => exact ⟨hseen'.trans hseen, hdown'.trans hdown⟩
    | ok name =>
      obtain ⟨-, -, hseen'', hdown''⟩ :=
        run_keeps powered.next.useInterface.next (connectArguments network name)
      exact ⟨hseen''.trans (hseen'.trans hseen), hdown''.trans (hdown'.trans hdown)⟩

theorem begun_of_activate (h : (nm.activate network).value = .ok ()) :
    (nm.activate network).next.Begun := by
  obtain ⟨hseen, hdown⟩ := activate_resets nm network
  refine ⟨?_, hseen, hdown⟩
  unfold activate at h ⊢
  dsimp only [Answer.bind] at h ⊢
  generalize ({ nm with seenProgress := false, downPolls := 0 } : NetworkManager).run
    ["radio", "wifi", "on"] = powered at h ⊢
  cases hpowered : powered.value with
  | error e =>
    rw [hpowered] at h
    nomatch h
  | ok output =>
    rw [hpowered] at h
    dsimp only at h ⊢
    cases hinterface : powered.next.useInterface.value with
    | error e =>
      rw [hinterface] at h
      nomatch h
    | ok name =>
      have hknown := useInterface_of_ok hinterface
      rw [hinterface] at h
      dsimp only at h ⊢
      generalize powered.next.useInterface.next = found at h hknown ⊢
      obtain ⟨hkept, hprogram, -⟩ := run_keeps found (connectArguments network name)
      cases hjoined : (found.run (connectArguments network name)).value with
      | error e =>
        rw [hjoined] at h
        nomatch h
      | ok output =>
        have hzero := not_holdsZero_of_run hjoined
        have hname : holdsZero name = false := hzero name (by simp [connectArguments])
        have hclient : holdsZero found.program = false := hzero _ List.mem_cons_self
        rw [← hprogram] at hclient
        exact ⟨name, hkept.trans hknown, hname, hclient⟩

theorem address_downPolls (nm : NetworkManager) : nm.address.next.downPolls = nm.downPolls := by
  obtain ⟨-, -, hdown⟩ := useInterface_keeps nm
  unfold address
  dsimp only [Answer.bind]
  cases nm.useInterface.value with
  | error e => exact hdown
  | ok name =>
    obtain ⟨-, -, -, hdown'⟩ := run_keeps nm.useInterface.next (queryArguments "IP4.ADDRESS" name)
    exact hdown'.trans hdown

theorem status_of_ready (h : nm.Ready name) :
    ((nm.status).value, (nm.status).next) = match nm.reading? 0 with
      | none => (Link.failed, nm.ran)
      | some state =>
        ((nm.ran.poll (linkStatus state)).2, (nm.ran.poll (linkStatus state)).1) := by
  have hzero : (nm.program :: queryArguments "GENERAL.STATE" name).any holdsZero = false := by
    have hwords : ["-t", "-g", "GENERAL.STATE", "device", "show"].any holdsZero = false := by decide
    simp only [queryArguments, List.any_cons, List.any_nil, Bool.or_false] at hwords ⊢
    simp only [h.program, h.name, Bool.false_or, Bool.or_false]
    simpa using hwords
  have hread : nm.reading? 0 = (nm.answers.headD nm.later).reading? := by
    unfold reading?
    cases nm.answers <;> rfl
  rw [hread]
  unfold status
  rw [useInterface_of_ready h, Answer.pure_bind]
  dsimp only [Answer.bind]
  unfold run
  rw [if_neg (Bool.eq_false_iff.1 hzero)]
  cases nm.answers.headD nm.later with
  | hangs => rfl
  | unstartable fault => rfl
  | exited status stdout stderr =>
    dsimp only [CommandAnswer.reading?]
    cases status.success with
    | false => rfl
    | true =>
      rw [if_pos rfl, if_pos rfl]
      dsimp only
      cases deviceState? (Utf8.decodeLossy stdout) with
      | none => rfl
      | some state => rfl

end NetworkManager
end Liveness
