import Liveness.Settings.Loading
import Mathlib.Data.List.Nodup

/-! The settings one by one: where each of them stands in a document, what values it takes, and what
it is among all settings. -/
namespace Liveness.Settings

/-- What a single setting can be; an absent text is one that nothing sets. -/
inductive Datum where
  | text (s : Option String)
  | boolean (b : Bool)
  | natural (n : UInt64)
  | backend (b : Backend)
deriving DecidableEq, Repr

inductive Kind where
  | text
  | boolean
  | natural
  | backend
deriving DecidableEq, Repr

namespace Kind

def denotes : Kind → Value → Option Datum
  | .text, .scalar _ (.text s) => some (.text (some s))
  | .text, .scalar _ (.character c) => some (.text (some c.toString))
  | .boolean, .scalar _ (.boolean b) => some (.boolean b)
  | .natural, .scalar _ (.unsigned n) => some (.natural (UInt64.ofNat n))
  | .natural, .scalar _ (.signed n) =>
    if n < 0 then none else some (.natural (UInt64.ofNat n.toNat))
  | .backend, .scalar _ (.text name) =>
    ([Backend.networkManager, .fixed].find? (·.name == name)).map .backend
  | _, _ => none

def read (path : List String) (v : Value) : Kind → Except BadValue Datum
  | .text => (v.text path).map (.text ∘ some)
  | .boolean => (v.boolean path).map .boolean
  | .natural => (v.natural path).map .natural
  | .backend => (v.backend path).map .backend

end Kind

structure Slot (σ : Type) where
  key : String
  kind : Kind
  value : σ → Datum

def Wifi.slots : List (Slot Wifi) := [
  ⟨"backend", .backend, fun w => .backend w.backend⟩,
  ⟨"ssid", .text, fun w => .text (some w.ssid)⟩,
  ⟨"psk", .text, fun w => .text w.secret⟩,
  ⟨"psk_env", .text, fun w => .text w.secretVariable⟩,
  ⟨"interface", .text, fun w => .text w.interface⟩]

def Monitor.slots : List (Slot Monitor) := [
  ⟨"url", .text, fun m => .text m.url⟩,
  ⟨"path", .text, fun m => .text (some m.path)⟩,
  ⟨"method", .text, fun m => .text (some m.method)⟩,
  ⟨"token", .text, fun m => .text m.token⟩,
  ⟨"token_env", .text, fun m => .text m.tokenVariable⟩,
  ⟨"insecure", .boolean, fun m => .boolean m.insecure⟩,
  ⟨"timeout", .natural, fun m => .natural m.timeout⟩]

def Timing.slots : List (Slot Timing) := [
  ⟨"activation_error", .natural, fun t => .natural t.activationError⟩,
  ⟨"association_failed", .natural, fun t => .natural t.associationFailed⟩,
  ⟨"probe_failed", .natural, fun t => .natural t.probeFailed⟩,
  ⟨"probe_interval", .natural, fun t => .natural t.probeInterval⟩,
  ⟨"poll_interval", .natural, fun t => .natural t.pollInterval⟩]

def indicatorSlots : List (Slot (Option String)) := [⟨"led", .text, .text⟩]

structure Setting where
  group : String
  key : String
  kind : Kind
  value : Settings → Datum

def Setting.path (k : Setting) : List String := [k.group, k.key]

def Slot.within {σ : Type} (group : String) (part : Settings → σ) (slot : Slot σ) : Setting :=
  ⟨group, slot.key, slot.kind, fun s => slot.value (part s)⟩

def all : List Setting :=
  Wifi.slots.map (·.within "wifi" wifi) ++ Monitor.slots.map (·.within "monitor" monitor) ++
    Timing.slots.map (·.within "timing" timing) ++ indicatorSlots.map (·.within "indicator" led)

theorem forall_mem_all {P : Setting → Prop} (hwifi : ∀ slot ∈ Wifi.slots, P (slot.within "wifi" wifi))
    (hmonitor : ∀ slot ∈ Monitor.slots, P (slot.within "monitor" monitor))
    (htiming : ∀ slot ∈ Timing.slots, P (slot.within "timing" timing))
    (hled : ∀ slot ∈ indicatorSlots, P (slot.within "indicator" led)) : ∀ k ∈ all, P k := by
  simp only [all, List.forall_mem_append, List.forall_mem_map]
  exact ⟨⟨⟨hwifi, hmonitor⟩, htiming⟩, hled⟩

theorem within_wifi_mem_all {slot : Slot Wifi} (h : slot ∈ Wifi.slots) :
    slot.within "wifi" wifi ∈ all := by
  simp only [all, List.mem_append]
  exact .inl (.inl (.inl (List.mem_map_of_mem h)))

theorem within_monitor_mem_all {slot : Slot Monitor} (h : slot ∈ Monitor.slots) :
    slot.within "monitor" monitor ∈ all := by
  simp only [all, List.mem_append]
  exact .inl (.inl (.inr (List.mem_map_of_mem h)))

theorem nodup_path_all : (all.map Setting.path).Nodup := by decide

/-- No two settings stand in one place. -/
theorem eq_of_path_eq {k k' : Setting} (hk : k ∈ all) (hk' : k' ∈ all) (h : k.path = k'.path) :
    k = k' :=
  List.inj_on_of_nodup_map nodup_path_all hk hk' h

/-- The settings that are texts. -/
example : (all.filter (·.kind = .text)).map Setting.path = [["wifi", "ssid"], ["wifi", "psk"],
    ["wifi", "psk_env"], ["wifi", "interface"], ["monitor", "url"], ["monitor", "path"],
    ["monitor", "method"], ["monitor", "token"], ["monitor", "token_env"], ["indicator", "led"]] := by
  decide

theorem Kind.toOption_read (kind : Kind) (path : List String) (v : Value) :
    (kind.read path v).toOption = kind.denotes v := by
  cases kind with
  | text =>
    cases v with
    | scalar o s => cases s <;> rfl
    | list => rfl
    | table => rfl
  | boolean =>
    cases v with
    | scalar o s => cases s <;> rfl
    | list => rfl
    | table => rfl
  | natural =>
    cases v with
    | scalar o s =>
      cases s with
      | signed n =>
        simp only [read, denotes, Value.natural]
        split_ifs <;> rfl
      | _ => rfl
    | list => rfl
    | table => rfl
  | backend =>
    cases v with
    | scalar o s =>
      cases s with
      | text name =>
        simp only [read, denotes, Value.backend, backendOfName]
        cases [Backend.networkManager, .fixed].find? (·.name == name) <;> rfl
      | _ => rfl
    | list => rfl
    | table o es =>
      cases es with
      | nil => rfl
      | cons e es =>
        obtain ⟨key, v⟩ := e
        simp only [read, denotes, Value.backend]
        cases backendOfName (path ++ [key]) v.origin key <;> rfl

end Liveness.Settings
