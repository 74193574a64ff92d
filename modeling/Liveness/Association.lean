import Liveness.Link.Radio

/-! Association: activate the radio, then poll its link status until a terminal code. Only the
status "up" counts as success. The indicator is on while the radio is driven or queried and off
between polls. -/
namespace Liveness

inductive AssociationState where
  | idle
  | associating
  | associated
  | failed
deriving DecidableEq, Repr

namespace AssociationState

def label : AssociationState → String
  | .idle => "idle"
  | .associating => "associating"
  | .associated => "associated"
  | .failed => "failed"

/-- The name of a state in a supervisor's summary. -/
def title : AssociationState → String
  | .idle => "Idle"
  | .associating => "Associating"
  | .associated => "Associated"
  | .failed => "Failed"

end AssociationState

inductive AssociationOutcome where
  | associated (status : Int)
  | rejected (status : Int)
  | activationFailed (error : RadioError)
deriving DecidableEq, Repr

def AssociationOutcome.isAssociated : AssociationOutcome → Bool
  | .associated _ => true
  | _ => false

/-- Where the current or the last attempt stands. -/
structure Association where
  state : AssociationState
  lastStatus : Option Int
  polls : Nat
deriving DecidableEq, Repr

/-- An attempt up to its end, or up to the limit on its polls. -/
structure Attempt (ρ : Type) where
  outcome : Option AssociationOutcome
  association : Association
  radio : ρ
  events : List Event

namespace Association
variable {ρ : Type} [Radio ρ]

def new : Association := ⟨.idle, none, 0⟩

def conclude (a : Association) (radio : ρ) (status : Int) : Attempt ρ :=
  if status = Link.up then
    ⟨some (.associated status), { a with state := .associated }, radio,
      [.lamp true, .report (.associated a.polls)]⟩
  else
    ⟨some (.rejected status), { a with state := .failed }, radio,
      [.lamp true, .report (.rejected status)]⟩

/-- Polls until a terminal status, at most `limit` times. -/
def poll (interval : Duration) : Nat → Association → ρ → Attempt ρ
  | 0, a, radio => ⟨none, a, radio, []⟩
  | limit + 1, a, radio =>
    let answer := Radio.status radio
    let a := { a with polls := a.polls + 1, lastStatus := some answer.value }
    let asked := .lamp true :: answer.events ++ [.status answer.value]
    let rest :=
      if Link.isTerminal answer.value then a.conclude answer.next answer.value
      else
        let rest := poll interval limit a answer.next
        { rest with events := .lamp false :: .pollWait interval :: rest.events }
    { rest with events := asked ++ rest.events }

/-- Runs one attempt, with at most `limit` polls. What earlier attempts left is forgotten. The
indicator is left on at the end. -/
def run (limit : Nat) (network : Credentials) (interval : Duration) (earlier : Association)
    (radio : ρ) : Attempt ρ :=
  let a := { earlier with lastStatus := none, polls := 0 }
  let answer := Radio.activate radio network
  let begun := .lamp true :: .report (.activating network.ssid) :: .activate network.ssid ::
    answer.events
  match answer.value with
  | .error e =>
    ⟨some (.activationFailed e), { a with state := .failed }, answer.next,
      begun ++ [.report (.activationFailed e.message)]⟩
  | .ok () =>
    let rest := poll interval limit { a with state := .associating } answer.next
    { rest with events := begun ++ rest.events }

end Association
end Liveness
