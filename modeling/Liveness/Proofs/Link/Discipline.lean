import Liveness.Proofs.Link.Commands

/-! The NetworkManager radio keeps to its discipline over any sequence of calls and any answers of its
client. -/
namespace Liveness.NetworkManager

def runsOf (effects : List Effect) : List (List String) :=
  effects.filterMap fun
    | .calls arguments _ => some arguments
    | _ => none

/-- Runs of the client one after another, with what comes of each. Effects tell the arguments alone,
so the results are those that the same runs give from the same state. -/
def commandsOf (nm : NetworkManager) : List (List String) → List Command
  | [] => []
  | arguments :: later =>
    ⟨arguments, (nm.run arguments).value⟩ :: commandsOf (nm.run arguments).next later

def afterRuns (nm : NetworkManager) : List (List String) → NetworkManager
  | [] => nm
  | arguments :: later => afterRuns (nm.run arguments).next later

def perform (nm : NetworkManager) : Call → Answer NetworkManager Reply
  | .activate network =>
    let answer := nm.activate network
    ⟨.activation answer.value, answer.next, answer.effects⟩
  | .status =>
    let answer := nm.status
    ⟨.status answer.value, answer.next, answer.effects⟩
  | .address =>
    let answer := nm.address
    ⟨.address answer.value, answer.next, answer.effects⟩

def conduct (nm : NetworkManager) : List Call → List Conduct
  | [] => []
  | call :: later =>
    let answer := nm.perform call
    ⟨call, nm.commandsOf (runsOf answer.effects), answer.value⟩ :: conduct answer.next later

structure SameClient (nm other : NetworkManager) : Prop where
  program : other.program = nm.program
  answers : other.answers = nm.answers
  later : other.later = nm.later

/-- An answer that comes of these commands, the client being left to its next run. -/
structure Follows {α : Type} (nm : NetworkManager) (answer : Answer NetworkManager α)
    (commands : List Command) : Prop where
  commands : nm.commandsOf (runsOf answer.effects) = commands
  client : SameClient (nm.afterRuns (runsOf answer.effects)) answer.next

variable {nm other third : NetworkManager} {α β : Type}

theorem runsOf_run (nm : NetworkManager) (arguments : List String) :
    runsOf (nm.run arguments).effects = [arguments] := by
  unfold run
  dsimp only
  split_ifs
  · rfl
  · cases nm.answers.headD nm.later <;> rfl

theorem commandsOf_append (nm : NetworkManager) (first second : List (List String)) :
    nm.commandsOf (first ++ second) =
      nm.commandsOf first ++ (nm.afterRuns first).commandsOf second := by
  induction first generalizing nm with
  | nil => rfl
  | cons arguments first ih =>
    rw [List.cons_append, commandsOf, ih, commandsOf, afterRuns, List.cons_append]

theorem afterRuns_append (nm : NetworkManager) (first second : List (List String)) :
    nm.afterRuns (first ++ second) = (nm.afterRuns first).afterRuns second := by
  induction first generalizing nm with
  | nil => rfl
  | cons arguments first ih => exact ih _

namespace SameClient

theorem refl (nm : NetworkManager) : SameClient nm nm := ⟨rfl, rfl, rfl⟩

theorem trans (h : SameClient nm other) (h' : SameClient other third) : SameClient nm third :=
  ⟨h'.program.trans h.program, h'.answers.trans h.answers, h'.later.trans h.later⟩

theorem run (h : SameClient nm other) (arguments : List String) :
    (other.run arguments).value = (nm.run arguments).value ∧
      SameClient (nm.run arguments).next (other.run arguments).next := by
  unfold NetworkManager.run
  rw [h.program, h.answers, h.later]
  dsimp only
  split_ifs
  · exact ⟨rfl, h⟩
  · cases nm.answers.headD nm.later <;> exact ⟨rfl, rfl, rfl, rfl⟩

theorem runs (h : SameClient nm other) (runs : List (List String)) :
    other.commandsOf runs = nm.commandsOf runs ∧
      SameClient (nm.afterRuns runs) (other.afterRuns runs) := by
  induction runs generalizing nm other with
  | nil => exact ⟨rfl, h⟩
  | cons arguments runs ih =>
    obtain ⟨hvalue, hnext⟩ := h.run arguments
    obtain ⟨hcommands, hafter⟩ := ih hnext
    rw [commandsOf, commandsOf, hvalue, hcommands]
    exact ⟨rfl, hafter⟩

end SameClient

/-- The answer comes of some commands that stand in this relation to its value and to the interface
known after it. -/
def Gives (nm : NetworkManager) (answer : Answer NetworkManager α)
    (R : List Command → α → Option String → Prop) : Prop :=
  ∃ commands, Follows nm answer commands ∧ R commands answer.value answer.next.interface

namespace Gives
variable {answer : Answer NetworkManager α} {f : NetworkManager → α → Answer NetworkManager β}
  {R : List Command → α → Option String → Prop} {S : List Command → β → Option String → Prop}

/-- Nothing is run, whatever else is told. -/
theorem still (hsame : SameClient nm answer.next) (hruns : runsOf answer.effects = [])
    (h : R [] answer.value answer.next.interface) : Gives nm answer R := by
  refine ⟨[], ⟨?_, ?_⟩, h⟩
  · rw [hruns]
    rfl
  · rw [hruns]
    exact hsame

theorem pure {value : α} (h : R [] value nm.interface) : Gives nm (Answer.pure nm value) R :=
  still (.refl nm) rfl h

theorem run (nm : NetworkManager) (arguments : List String) :
    Gives nm (nm.run arguments) fun commands result later =>
      commands = [⟨arguments, result⟩] ∧ later = nm.interface := by
  refine ⟨_, ⟨?_, ?_⟩, rfl, (run_keeps nm arguments).1⟩
  · rw [runsOf_run]
    rfl
  · rw [runsOf_run]
    exact .refl _

theorem bind (h : Gives nm answer R)
    (h' : ∀ commands value next, R commands value next.interface →
      Gives next (f next value) fun more => S (commands ++ more)) :
    Gives nm (answer.bind f) S := by
  obtain ⟨first, hfollows, hfirst⟩ := h
  obtain ⟨second, hfollows', hsecond⟩ := h' first answer.value answer.next hfirst
  have hruns : runsOf (answer.bind f).effects =
      runsOf answer.effects ++ runsOf (f answer.next answer.value).effects := List.filterMap_append
  obtain ⟨hcommands, hafter⟩ := hfollows.client.runs (runsOf (f answer.next answer.value).effects)
  refine ⟨first ++ second, ⟨?_, ?_⟩, hsecond⟩
  · rw [hruns, commandsOf_append, hfollows.commands, ← hcommands, hfollows'.commands]
  · rw [hruns, afterRuns_append]
    exact hafter.trans hfollows'.client

theorem map {g : α → β} (h : Gives nm answer R)
    (h' : ∀ commands value later, R commands value later → S commands (g value) later) :
    Gives nm ⟨g answer.value, answer.next, answer.effects⟩ S := by
  obtain ⟨commands, hfollows, hcommands⟩ := h
  exact ⟨commands, ⟨hfollows.commands, hfollows.client⟩, h' _ _ _ hcommands⟩

theorem imp {S : List Command → α → Option String → Prop} (h : Gives nm answer R)
    (h' : ∀ commands value later, R commands value later → S commands value later) :
    Gives nm answer S :=
  h.map (g := id) h'

theorem of_same (hsame : SameClient nm other) (h : Gives other answer R) : Gives nm answer R := by
  obtain ⟨commands, hfollows, hcommands⟩ := h
  obtain ⟨heq, hafter⟩ := hsame.runs (runsOf answer.effects)
  exact ⟨commands, ⟨heq ▸ hfollows.commands, hafter.trans hfollows.client⟩, hcommands⟩

end Gives

theorem useInterface_finds (nm : NetworkManager) : Gives nm nm.useInterface (Finds nm.interface) := by
  unfold useInterface
  cases hknown : nm.interface with
  | some name => exact .pure (hknown ▸ .known name)
  | none =>
    refine (Gives.run nm listDevices).bind ?_
    rintro _ result next ⟨rfl, hkept⟩
    have hnone : next.interface = none := hkept.trans hknown
    cases result with
    | error e => exact .pure (hnone ▸ .unlisted e)
    | ok text =>
      dsimp only
      cases hdevice : firstWifiDevice? text with
      | none => exact .pure (hnone ▸ .absent hdevice)
      | some name => exact .still ⟨rfl, rfl, rfl⟩ rfl (.found hdevice)

theorem joins_connectArguments (network : Credentials) (name : String) :
    Joins network name (connectArguments network name) :=
  ⟨_, rfl, fun hsecret => if_pos hsecret, fun hsecret => if_neg hsecret⟩

theorem activate_activates (nm : NetworkManager) (network : Credentials) :
    Gives nm (nm.activate network) (Activates network nm.interface) := by
  have hsame : SameClient nm { nm with seenProgress := false, downPolls := 0 } := ⟨rfl, rfl, rfl⟩
  refine .of_same hsame ?_
  unfold activate
  refine (Gives.run _ powerOn).bind ?_
  rintro _ result powered ⟨rfl, hkept⟩
  replace hkept : powered.interface = nm.interface := hkept
  cases result with
  | error e => exact .pure (hkept ▸ .unpowered _ e)
  | ok output =>
    refine (useInterface_finds powered).bind ?_
    intro commands result found hfinds
    rw [hkept] at hfinds
    cases result with
    | error e => exact .pure (by simpa using Activates.unfound output hfinds)
    | ok name =>
      refine (Gives.run found (connectArguments network name)).bind ?_
      rintro _ result next ⟨rfl, hkept⟩
      rw [← hkept] at hfinds
      exact .pure (.asked output hfinds (joins_connectArguments network name) result)

def Idle (nm : NetworkManager) (answer : Answer NetworkManager α) : Prop :=
  Gives nm answer fun commands _ later => commands = [] ∧ later = nm.interface

theorem idle_reports (nm : NetworkManager) (value : α) (n : Notice) :
    Idle nm ⟨value, nm, [.reports n]⟩ :=
  .still (.refl nm) rfl ⟨rfl, rfl⟩

theorem idle_pure (nm : NetworkManager) (value : α) : Idle nm (Answer.pure nm value) :=
  .pure ⟨rfl, rfl⟩

theorem idle_poll (nm : NetworkManager) (status : Int) :
    Idle nm (Answer.pure (nm.poll status).1 (nm.poll status).2) := by
  have hpoll : SameClient nm (nm.poll status).1 ∧ (nm.poll status).1.interface = nm.interface := by
    unfold poll
    split_ifs <;> exact ⟨⟨rfl, rfl, rfl⟩, rfl⟩
  exact .still hpoll.1 rfl ⟨rfl, hpoll.2⟩

/-- What reads one property of the device in use asks for it once the interface is found. -/
theorem Gives.query {property : String}
    {f : NetworkManager → Except RadioError String → Answer NetworkManager α}
    {g : NetworkManager → Except RadioError String → Answer NetworkManager α}
    (unfound : ∀ next e, Idle next (f next (.error e)))
    (asks : ∀ next name, f next (.ok name) = (next.run (queryArguments property name)).bind g)
    (asked : ∀ next result, Idle next (g next result)) :
    Gives nm (nm.useInterface.bind f)
      fun commands _ later => Queries property nm.interface commands later := by
  refine (useInterface_finds nm).bind ?_
  intro commands result found hfinds
  cases result with
  | error e =>
    refine (unfound found e).imp ?_
    rintro _ _ _ ⟨rfl, rfl⟩
    rw [List.append_nil]
    exact .unfound hfinds
  | ok name =>
    rw [asks]
    refine (Gives.run found (queryArguments property name)).bind ?_
    rintro _ result next ⟨rfl, hkept⟩
    refine (asked next result).imp ?_
    rintro _ _ _ ⟨rfl, rfl⟩
    rw [hkept]
    exact .asked hfinds result

theorem status_queries (nm : NetworkManager) :
    Gives nm nm.status
      fun commands _ later => Queries "GENERAL.STATE" nm.interface commands later := by
  refine .query (fun next _ => idle_reports next _ _) (fun _ _ => rfl) ?_
  intro next result
  cases result with
  | error e => exact idle_reports next _ _
  | ok raw =>
    dsimp only
    cases deviceState? raw with
    | none => exact idle_reports next _ _
    | some state => exact idle_poll next (linkStatus state)

theorem address_queries (nm : NetworkManager) :
    Gives nm nm.address
      fun commands _ later => Queries "IP4.ADDRESS" nm.interface commands later :=
  .query (fun next _ => idle_pure next _) (fun _ _ => rfl) fun next _ => idle_pure next _

theorem perform_disciplined (nm : NetworkManager) (call : Call) :
    Gives nm (nm.perform call) (Disciplined call nm.interface) := by
  cases call with
  | activate network => exact (activate_activates nm network).map fun _ _ _ => .activate
  | status => exact (status_queries nm).map fun _ code _ h => .status h code
  | address => exact (address_queries nm).map fun _ text _ h => .address h text

/-- Whatever the calls, each goes by the rules, given the interface that the commands before it
tell. -/
theorem conduct_disciplined (nm : NetworkManager) (calls : List Call) :
    ∀ {before later : List Conduct} {e : Conduct}, nm.conduct calls = before ++ e :: later →
      Disciplined e.call (interfaceAfter nm.interface (before.flatMap Conduct.commands)) e.commands
        e.reply (interfaceAfter nm.interface (before.flatMap Conduct.commands ++ e.commands)) := by
  induction calls generalizing nm with
  | nil => exact fun h => nomatch List.nil_eq_append_iff.1 h
  | cons call calls ih =>
    intro before later e h
    obtain ⟨commands, hfollows, hcall⟩ := perform_disciplined nm call
    have hnext := hcall.later_eq
    rw [conduct, hfollows.commands] at h
    cases before with
    | nil =>
      obtain ⟨rfl, -⟩ := List.cons.inj h
      rw [List.flatMap_nil, List.nil_append, interfaceAfter_nil, ← hnext]
      exact hcall
    | cons made before =>
      obtain ⟨rfl, hrest⟩ := List.cons.inj h
      have hlater := ih (nm.perform call).next hrest
      rw [hnext, ← interfaceAfter_append, ← interfaceAfter_append, ← List.append_assoc] at hlater
      exact hlater

/-- Over a whole history, too, every command is about the interface known at it. -/
theorem faithful_conduct (nm : NetworkManager) (calls : List Call) :
    Faithful nm.interface ((nm.conduct calls).flatMap Conduct.commands) := by
  induction calls generalizing nm with
  | nil => trivial
  | cons call calls ih =>
    obtain ⟨commands, hfollows, hcall⟩ := perform_disciplined nm call
    have hrest := ih (nm.perform call).next
    rw [hcall.later_eq] at hrest
    rw [conduct, hfollows.commands, List.flatMap_cons]
    exact faithful_append.2 ⟨hcall.faithful, hrest⟩

theorem map_call_conduct (nm : NetworkManager) (calls : List Call) :
    (nm.conduct calls).map Conduct.call = calls := by
  induction calls generalizing nm with
  | nil => rfl
  | cons call calls ih => rw [conduct, List.map_cons, ih]

/-- The radio keeps to its discipline whatever it is asked and whatever its client answers. Each call
goes by the rules, its interface being the configured one or the one that an earlier listing found.
From the moment it is known no command lists the devices, and each is about that interface. A listing
finds the device of the first line whose type is Wi-Fi. -/
theorem calls_disciplined (nm : NetworkManager) (calls : List Call) :
    (nm.conduct calls).map Conduct.call = calls ∧
      (∀ before e later, nm.conduct calls = before ++ e :: later →
        Disciplined e.call (interfaceAfter nm.interface (before.flatMap Conduct.commands)) e.commands
          e.reply (interfaceAfter nm.interface (before.flatMap Conduct.commands ++ e.commands))) ∧
      (∀ first c second name,
        (nm.conduct calls).flatMap Conduct.commands = first ++ c :: second →
        interfaceAfter nm.interface first = some name →
        c.arguments ≠ listDevices ∧ c.About name) ∧
      ∀ text device, firstWifiDevice? text = some device ↔ FirstWifi text device := by
  refine ⟨map_call_conduct nm calls, ?_, ?_, ?_⟩
  · intro before e later h
    exact conduct_disciplined nm calls h
  · intro first c second name h hknown
    have hfaithful := faithful_conduct nm calls
    rw [h, faithful_append, hknown] at hfaithful
    have habout : c.About name := hfaithful.2.1 name rfl
    exact ⟨habout.ne_listDevices, habout⟩
  · intro text device
    exact firstWifiDevice?_eq_some_iff

/-- A listing fails, the next one finds the interface, and the join then uses it. -/
theorem calls_disciplined_relisted :
    let said (text : List UInt8) : CommandAnswer := .exited (.code 0) text []
    let listing := "lo:loopback\nwlan0:wifi\n"
    let nm : NetworkManager := .new none "nmcli" [.hangs, said listing.toUTF8.toList] (said [])
    let network : Credentials := ⟨"lab", "open sesame"⟩
    let unlisted : List Command := [⟨listDevices, .error (.timeout "nmcli" 15)⟩]
    let asked : List Command :=
      [⟨listDevices, .ok listing⟩, ⟨["-t", "-g", "IP4.ADDRESS", "device", "show", "wlan0"], .ok ""⟩]
    let join : Command :=
      ⟨["--wait", "0", "device", "wifi", "connect", "lab", "password", "open sesame", "ifname",
        "wlan0"], .ok ""⟩
    nm.conduct [.status, .address, .activate network] =
        [⟨.status, unlisted, .status Link.failed⟩, ⟨.address, asked, .address none⟩,
          ⟨.activate network, [⟨powerOn, .ok ""⟩, join], .activation (.ok ())⟩] ∧
      Disciplined .address none asked (.address none) (some "wlan0") ∧ join.About "wlan0" := by
  intro said listing nm network unlisted asked join
  have hconduct : nm.conduct [.status, .address, .activate network] =
      [⟨.status, unlisted, .status Link.failed⟩, ⟨.address, asked, .address none⟩,
        ⟨.activate network, [⟨powerOn, .ok ""⟩, join], .activation (.ok ())⟩] := by decide +kernel
  have hunknown : interfaceAfter none unlisted = none := by decide
  have hfound : interfaceAfter none (unlisted ++ asked) = some "wlan0" := by decide +kernel
  have hlater : interfaceAfter none (unlisted ++ asked ++ [⟨powerOn, .ok ""⟩]) = some "wlan0" := by
    rw [interfaceAfter_append, hfound, interfaceAfter_powerOn]
    rfl
  obtain ⟨-, hcalls, hknown, -⟩ := calls_disciplined nm [.status, .address, .activate network]
  rw [hconduct] at hcalls hknown
  have haddress : Disciplined .address (interfaceAfter none unlisted) asked (.address none)
      (interfaceAfter none (unlisted ++ asked)) :=
    hcalls [⟨.status, unlisted, .status Link.failed⟩] _ [_] rfl
  rw [hunknown, hfound] at haddress
  exact ⟨hconduct, haddress, (hknown _ join [] "wlan0" rfl hlater).2⟩

end Liveness.NetworkManager
