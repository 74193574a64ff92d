import Liveness.Proofs.Link.Listing
import Liveness.Proofs.Link.NetworkManager

/-! Which commands the NetworkManager radio gives its client. The interface is asked for where it is
needed first, whichever operation that is, and the history of the commands alone says whether it is
known: it is configured, or an earlier listing has named it. -/
namespace Liveness.NetworkManager

inductive Call where
  | activate (network : Credentials)
  | status
  | address
deriving DecidableEq, Repr

inductive Reply where
  | activation (result : Except RadioError Unit)
  | status (code : Int)
  | address (text : Option String)
deriving DecidableEq

/-- One run of the client, and what came of it. -/
structure Command where
  arguments : List String
  result : Except RadioError String
deriving DecidableEq

/-- A call, the commands that it gave, and its reply. -/
structure Conduct where
  call : Call
  commands : List Command
  reply : Reply
deriving DecidableEq

def powerOn : List String := ["radio", "wifi", "on"]

def listDevices : List String := ["-t", "-f", "DEVICE,TYPE", "device"]

/-- The arguments that join a network over an interface. The secret is given if there is one. -/
def Joins (network : Credentials) (interface : String) (arguments : List String) : Prop :=
  ∃ secret, arguments = ["--wait", "0", "device", "wifi", "connect", network.ssid] ++ secret ++
      ["ifname", interface] ∧
    (network.secret = "" → secret = []) ∧
    (network.secret ≠ "" → secret = ["password", network.secret])

/-- How an interface comes to be used: what is known before, the commands, the interface or the reason
why there is none, and what is known afterwards. -/
inductive Finds : Option String → List Command → Except RadioError String → Option String → Prop
  | known (name : String) : Finds (some name) [] (.ok name) (some name)
  | unlisted (e : RadioError) : Finds none [⟨listDevices, .error e⟩] (.error e) none
  | absent {text : String} (no_wifi : firstWifiDevice? text = none) :
      Finds none [⟨listDevices, .ok text⟩] (.error (.activation .noDevice)) none
  | found {text name : String} (first_wifi : firstWifiDevice? text = some name) :
      Finds none [⟨listDevices, .ok text⟩] (.ok name) (some name)

/-- How an activation goes: to its first command that fails, or to the last one. -/
inductive Activates (network : Credentials) :
    Option String → List Command → Except RadioError Unit → Option String → Prop
  | unpowered (known : Option String) (e : RadioError) :
      Activates network known [⟨powerOn, .error e⟩] (.error e) known
  | unfound {known later : Option String} {commands : List Command} {e : RadioError}
      (output : String) (finds : Finds known commands (.error e) later) :
      Activates network known (⟨powerOn, .ok output⟩ :: commands) (.error e) later
  | asked {known later : Option String} {commands : List Command} {name : String}
      {arguments : List String} (output : String) (finds : Finds known commands (.ok name) later)
      (joins : Joins network name arguments) (result : Except RadioError String) :
      Activates network known (⟨powerOn, .ok output⟩ :: commands ++ [⟨arguments, result⟩])
        (result.map fun _ => ()) later

inductive Queries (property : String) : Option String → List Command → Option String → Prop
  | unfound {known later : Option String} {commands : List Command} {e : RadioError}
      (finds : Finds known commands (.error e) later) : Queries property known commands later
  | asked {known later : Option String} {commands : List Command} {name : String}
      (finds : Finds known commands (.ok name) later) (result : Except RadioError String) :
      Queries property known
        (commands ++ [⟨["-t", "-g", property, "device", "show", name], result⟩]) later

/-- How a call goes, given the interface known before it. -/
inductive Disciplined : Call → Option String → List Command → Reply → Option String → Prop
  | activate {network : Credentials} {known later : Option String} {commands : List Command}
      {result : Except RadioError Unit} (activates : Activates network known commands result later) :
      Disciplined (.activate network) known commands (.activation result) later
  | status {known later : Option String} {commands : List Command}
      (queries : Queries "GENERAL.STATE" known commands later) (code : Int) :
      Disciplined .status known commands (.status code) later
  | address {known later : Option String} {commands : List Command}
      (queries : Queries "IP4.ADDRESS" known commands later) (text : Option String) :
      Disciplined .address known commands (.address text) later

def Command.found? (c : Command) : Option String :=
  if c.arguments = listDevices then c.result.toOption.bind firstWifiDevice? else none

/-- The interface that is configured or that a listing among the commands has found. -/
def interfaceAfter (configured : Option String) (commands : List Command) : Option String :=
  configured.or (commands.findSome? Command.found?)

/-- The command powers Wi-Fi on, joins a network over this interface, or asks for a property of it. -/
def Command.About (name : String) (c : Command) : Prop :=
  c.arguments = powerOn ∨ (∃ network, Joins network name c.arguments) ∨
    ∃ property, c.arguments = ["-t", "-g", property, "device", "show", name]

/-- Every command is about the interface that is known at it, if one is. -/
def Faithful : Option String → List Command → Prop
  | _, [] => True
  | known, c :: later =>
    (∀ name, known = some name → c.About name) ∧ Faithful (interfaceAfter known [c]) later

variable {configured known later : Option String} {network : Credentials} {c : Command}
  {commands first second : List Command} {name property : String} {arguments : List String}

theorem about_powerOn (name : String) (result : Except RadioError String) :
    Command.About name ⟨powerOn, result⟩ := .inl rfl

theorem Joins.about (h : Joins network name arguments) (result : Except RadioError String) :
    Command.About name ⟨arguments, result⟩ := .inr (.inl ⟨network, h⟩)

theorem about_query (property name : String) (result : Except RadioError String) :
    Command.About name ⟨["-t", "-g", property, "device", "show", name], result⟩ :=
  .inr (.inr ⟨property, rfl⟩)

theorem Command.About.ne_listDevices (h : c.About name) : c.arguments ≠ listDevices := by
  obtain h | ⟨network, secret, h, -⟩ | ⟨property, h⟩ := h
  · rw [h]
    decide
  · rw [h]
    simp [listDevices]
  · rw [h]
    simp [listDevices]

theorem interfaceAfter_nil (configured : Option String) : interfaceAfter configured [] = configured :=
  Option.or_none

theorem interfaceAfter_append (configured : Option String) (first second : List Command) :
    interfaceAfter configured (first ++ second) =
      interfaceAfter (interfaceAfter configured first) second := by
  unfold interfaceAfter
  rw [List.findSome?_append, Option.or_assoc]

/-- Only listings find an interface. -/
theorem interfaceAfter_of_about (h : c.About name) : interfaceAfter configured [c] = configured := by
  have hnone : c.found? = none := if_neg h.ne_listDevices
  simp [interfaceAfter, hnone]

theorem faithful_append :
    Faithful known (first ++ second) ↔
      Faithful known first ∧ Faithful (interfaceAfter known first) second := by
  induction first generalizing known with
  | nil =>
    rw [interfaceAfter_nil]
    exact ⟨fun h => ⟨trivial, h⟩, And.right⟩
  | cons c first ih =>
    have hcons := interfaceAfter_append known [c] first
    rw [List.singleton_append] at hcons
    rw [List.cons_append, Faithful, ih, Faithful, hcons, and_assoc]

theorem faithful_singleton : Faithful known [c] ↔ ∀ name, known = some name → c.About name :=
  and_iff_left trivial

theorem Finds.later_eq {result : Except RadioError String} (h : Finds known commands result later) :
    later = interfaceAfter known commands := by
  cases h with
  | known name => rfl
  | unlisted e => rfl
  | absent no_wifi => simp [interfaceAfter, Command.found?, no_wifi, Except.toOption]
  | found first_wifi => simp [interfaceAfter, Command.found?, first_wifi, Except.toOption]

theorem Finds.later_of_ok (h : Finds known commands (.ok name) later) : later = some name := by
  cases h <;> rfl

theorem Finds.faithful {result : Except RadioError String} (h : Finds known commands result later) :
    Faithful known commands := by
  cases h with
  | known name => trivial
  | unlisted e => exact faithful_singleton.2 nofun
  | absent no_wifi => exact faithful_singleton.2 nofun
  | found first_wifi => exact faithful_singleton.2 nofun

theorem Finds.faithful_append (h : Finds known commands (.ok name) later) (hc : c.About name) :
    Faithful known (commands ++ [c]) := by
  refine NetworkManager.faithful_append.2 ⟨h.faithful, faithful_singleton.2 ?_⟩
  intro known hknown
  rw [← h.later_eq, h.later_of_ok] at hknown
  obtain rfl := Option.some.inj hknown
  exact hc

theorem Queries.later_eq (h : Queries property known commands later) :
    later = interfaceAfter known commands := by
  cases h with
  | unfound finds => exact finds.later_eq
  | asked finds result =>
    rw [interfaceAfter_append, ← finds.later_eq, interfaceAfter_of_about (about_query property _ _)]

theorem Queries.faithful (h : Queries property known commands later) : Faithful known commands := by
  cases h with
  | unfound finds => exact finds.faithful
  | asked finds result => exact finds.faithful_append (about_query property _ result)

theorem interfaceAfter_powerOn (known : Option String) (result : Except RadioError String)
    (rest : List Command) :
    interfaceAfter known (⟨powerOn, result⟩ :: rest) = interfaceAfter known rest := by
  have hsplit := interfaceAfter_append known [⟨powerOn, result⟩] rest
  rw [interfaceAfter_of_about (about_powerOn "" result)] at hsplit
  exact hsplit

theorem Faithful.powerOn_cons (h : Faithful known commands) (result : Except RadioError String) :
    Faithful known (⟨powerOn, result⟩ :: commands) := by
  refine ⟨fun name _ => about_powerOn name result, ?_⟩
  rw [interfaceAfter_of_about (about_powerOn "" result)]
  exact h

theorem Activates.later_eq {result : Except RadioError Unit}
    (h : Activates network known commands result later) :
    later = interfaceAfter known commands := by
  cases h with
  | unpowered e => exact (interfaceAfter_of_about (about_powerOn "" _)).symm
  | unfound output finds => rw [interfaceAfter_powerOn, finds.later_eq]
  | asked output finds joins result =>
    rw [List.cons_append, interfaceAfter_powerOn, interfaceAfter_append, ← finds.later_eq,
      interfaceAfter_of_about (joins.about result)]

theorem Activates.faithful {result : Except RadioError Unit}
    (h : Activates network known commands result later) : Faithful known commands := by
  cases h with
  | unpowered e => exact faithful_singleton.2 fun name _ => about_powerOn name _
  | unfound output finds => exact finds.faithful.powerOn_cons _
  | asked output finds joins result =>
    exact (finds.faithful_append (joins.about result)).powerOn_cons _

theorem Disciplined.later_eq {call : Call} {reply : Reply}
    (h : Disciplined call known commands reply later) :
    later = interfaceAfter known commands := by
  cases h with
  | activate activates => exact activates.later_eq
  | status queries code => exact queries.later_eq
  | address queries text => exact queries.later_eq

theorem Disciplined.faithful {call : Call} {reply : Reply}
    (h : Disciplined call known commands reply later) : Faithful known commands := by
  cases h with
  | activate activates => exact activates.faithful
  | status queries code => exact queries.faithful
  | address queries text => exact queries.faithful

end Liveness.NetworkManager
