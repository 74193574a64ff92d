import Liveness.Proofs.Association.Polling

/-! The indicator over a list of events: what it was last commanded, and whether every call to a
device finds it on and every sleep between polls finds it off. -/
namespace Liveness.Event

/-- The last command to the indicator; `lamp` was the last one before these events. -/
def lampAfter (lamp : Option Bool) : List Event → Option Bool
  | [] => lamp
  | .lamp on :: es => lampAfter (some on) es
  | _ :: es => lampAfter lamp es

def isCall : Event → Bool
  | .activate _ | .status _ | .address | .probe => true
  | _ => false

def isPollWait : Event → Bool
  | .pollWait _ => true
  | _ => false

def isRest : Event → Bool
  | .rest _ => true
  | _ => false

/-- Calls are made with the indicator on, sleeps between polls with it off. -/
def Suits (lamp : Option Bool) (e : Event) : Prop :=
  (e.isCall → lamp = some true) ∧ (e.isPollWait → lamp = some false)

/-- Every event finds the indicator as it has to be. -/
def Obeys (lamp : Option Bool) : List Event → Prop
  | [] => True
  | e :: es => Suits lamp e ∧ Obeys (lampAfter lamp [e]) es

variable {lamp : Option Bool} {e : Event} {es fs : List Event}

theorem lampAfter_cons : lampAfter lamp (e :: es) = lampAfter (lampAfter lamp [e]) es := by
  cases e <;> rfl

@[simp] theorem lampAfter_append :
    lampAfter lamp (es ++ fs) = lampAfter (lampAfter lamp es) fs := by
  induction es generalizing lamp with
  | nil => rfl
  | cons e es ih => rw [List.cons_append, lampAfter_cons, ih, ← lampAfter_cons]

theorem obeys_append : Obeys lamp (es ++ fs) ↔ Obeys lamp es ∧ Obeys (lampAfter lamp es) fs := by
  induction es generalizing lamp with
  | nil => simp [Obeys, lampAfter]
  | cons e es ih => rw [List.cons_append, Obeys, ih, Obeys, ← and_assoc, ← lampAfter_cons]

theorem Obeys.suits {before after : List Event} (h : Obeys lamp (before ++ e :: after)) :
    Suits (lampAfter lamp before) e :=
  (obeys_append.1 h).2.1

@[simp] theorem lampAfter_effects (effects : List Effect) :
    lampAfter lamp (effects.map .effect) = lamp := by
  induction effects with
  | nil => rfl
  | cons e effects ih => exact ih

theorem obeys_effects (effects : List Effect) : Obeys lamp (effects.map .effect) := by
  induction effects with
  | nil => trivial
  | cons e effects ih => exact ⟨⟨nofun, nofun⟩, ih⟩

@[simp] theorem lampAfter_events {σ α : Type} (answer : Answer σ α) :
    lampAfter lamp answer.events = lamp := lampAfter_effects answer.effects

theorem obeys_events {σ α : Type} (answer : Answer σ α) : Obeys lamp answer.events :=
  obeys_effects answer.effects

end Event

namespace Association
open Event
variable {ρ : Type} (lamp : Option Bool)

theorem conclude_lit (a : Association) (radio : ρ) (status : Int) :
    Obeys lamp (a.conclude radio status).events ∧
      lampAfter lamp (a.conclude radio status).events = some true := by
  unfold conclude
  split <;> simp [Obeys, Suits, lampAfter, isCall, isPollWait]

variable [Radio ρ]

theorem asked_lit (radio : ρ) :
    Obeys lamp (asked radio) ∧ lampAfter lamp (asked radio) = some true := by
  simp [asked, obeys_append, Obeys, Suits, isCall, isPollWait, lampAfter, obeys_events]

theorem poll_lit (interval : Duration) (limit : Nat) (a : Association) (radio : ρ) :
    Obeys lamp (poll interval limit a radio).events ∧
      ((poll interval limit a radio).outcome ≠ none →
        lampAfter lamp (poll interval limit a radio).events = some true) := by
  induction limit generalizing a radio lamp with
  | zero => exact ⟨trivial, fun hne => absurd rfl hne⟩
  | succ limit ih =>
    obtain ⟨hasked, hon⟩ := asked_lit lamp radio
    cases h : Link.isTerminal (Radio.status radio).value with
    | true =>
      rw [poll_succ_of_terminal h]
      obtain ⟨hended, hlit⟩ := conclude_lit (some true)
        (a.heard (Radio.status radio).value) (Radio.status radio).next (Radio.status radio).value
      exact ⟨obeys_append.2 ⟨hasked, hon ▸ hended⟩, fun _ => by rw [lampAfter_append, hon, hlit]⟩
    | false =>
      rw [poll_succ_of_not_terminal h]
      obtain ⟨hrest, hlit⟩ := ih (some false) (a.heard (Radio.status radio).value)
        (Radio.status radio).next
      refine ⟨obeys_append.2 ⟨hasked, ?_⟩, fun hne => ?_⟩
      · exact ⟨⟨nofun, nofun⟩, ⟨nofun, fun _ => rfl⟩, hrest⟩
      · rw [lampAfter_append]
        exact hlit hne

theorem run_lit (limit : Nat) (network : Credentials) (interval : Duration) (earlier : Association)
    (radio : ρ) :
    Obeys lamp (run limit network interval earlier radio).events ∧
      ((run limit network interval earlier radio).outcome ≠ none →
        lampAfter lamp (run limit network interval earlier radio).events = some true) := by
  have hbegun : Obeys lamp (.lamp true :: .report (.activating network.ssid) ::
      .activate network.ssid :: (Radio.activate radio network).events) :=
    ⟨⟨nofun, nofun⟩, ⟨nofun, nofun⟩, ⟨fun _ => rfl, nofun⟩, obeys_events _⟩
  have hon : lampAfter lamp (.lamp true :: .report (.activating network.ssid) ::
      .activate network.ssid :: (Radio.activate radio network).events) = some true :=
    lampAfter_events _
  unfold run
  dsimp only
  split
  · refine ⟨obeys_append.2 ⟨hbegun, ⟨nofun, nofun⟩, trivial⟩, fun _ => ?_⟩
    rw [lampAfter_append, hon]
    rfl
  · have hpoll := poll_lit (some true) interval limit
      { earlier with lastStatus := none, polls := 0, state := .associating }
      (Radio.activate radio network).next
    refine ⟨obeys_append.2 ⟨hbegun, hon ▸ hpoll.1⟩, fun hne => ?_⟩
    rw [lampAfter_append, hon]
    exact hpoll.2 hne

end Association
end Liveness
