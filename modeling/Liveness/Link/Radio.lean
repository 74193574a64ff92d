import Liveness.Event

/-! Radios: what an association attempt drives. -/
namespace Liveness

structure Credentials where
  ssid : String
  secret : String
deriving DecidableEq, Repr

/-- A radio powers its interface up and starts joining, reports a numeric link status, and knows
its address once joined. -/
class Radio (ρ : Type) where
  activate : ρ → Credentials → Answer ρ (Except RadioError Unit)
  status : ρ → Answer ρ Int
  address : ρ → Answer ρ (Option String)

/-- A link that something else manages. It is always up. -/
structure FixedLink where
deriving DecidableEq, Repr

instance : Radio FixedLink where
  activate r _ := .pure r (.ok ())
  status r := .pure r Link.up
  address r := .pure r none

/-- A radio that plays prepared answers. Activations beyond them succeed; a status beyond them is a
failure and cancels the run. -/
structure ScriptedRadio where
  activations : List (Option RadioError)
  statuses : List Int
  address : Option String
  delay : Duration
deriving Repr

instance : Radio ScriptedRadio where
  activate r _ :=
    let result := match r.activations with
      | some e :: _ => .error e
      | _ => .ok ()
    ⟨result, { r with activations := r.activations.tail }, [.takes r.delay]⟩
  status r :=
    match r.statuses with
    | code :: rest => ⟨code, { r with statuses := rest }, [.takes r.delay]⟩
    | [] => ⟨Link.failed, r, [.takes r.delay, .cancels .exhaustion]⟩
  address r := .pure r r.address

end Liveness
