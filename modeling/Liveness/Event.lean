import Liveness.Notice

/-! What happens in a run, in order. Time passes only in events that take it, so a list of events
also says when each of them happens. -/
namespace Liveness

inductive Canceller where
  | clock
  | script
  | exhaustion
deriving DecidableEq, Repr

/-- What happens inside a call to a radio or a prober. -/
inductive Effect where
  | takes (span : Duration)
  | reports (notice : Notice)
  /-- A client program is called; it may not even start. -/
  | calls (arguments : List String) (started : Bool)
  | cancels (who : Canceller)
deriving DecidableEq, Repr

inductive Event where
  /-- The indicator is commanded on or off. -/
  | lamp (on : Bool)
  | activate (ssid : String)
  | status (code : Int)
  | address
  | probe
  | effect (e : Effect)
  /-- A sleep between link status polls. -/
  | pollWait (span : Duration)
  /-- A sleep between steps. -/
  | rest (span : Duration)
  | report (notice : Notice)
deriving DecidableEq, Repr

namespace Event

/-- How long an event takes. The longest wait bounds each of them. -/
def span : Event → Duration
  | .effect (.takes d) | .pollWait d | .rest d => d.asWait
  | _ => .zero

def notice? : Event → Option Notice
  | .report n | .effect (.reports n) => some n
  | _ => none

def canceller? : Event → Option Canceller
  | .effect (.cancels who) => some who
  | _ => none

/-- The nanoseconds that a list of events takes. -/
def total (events : List Event) : Nat :=
  events.foldr (fun e n => e.span.nanos + n) 0

/-- Each event with the nanoseconds since the start. An event that takes time bears the time at
which it begins. -/
def stamped : Nat → List Event → List (Nat × Event)
  | _, [] => []
  | now, e :: es => (now, e) :: stamped (now + e.span.nanos) es

@[simp] theorem total_nil : total [] = 0 := rfl

@[simp] theorem total_cons (e : Event) (es : List Event) :
    total (e :: es) = e.span.nanos + total es := rfl

@[simp] theorem total_append (es fs : List Event) : total (es ++ fs) = total es + total fs := by
  induction es with
  | nil => simp
  | cons e es ih => simp [ih, Nat.add_assoc]

end Event

/-- What a call on a device gives back: the answer, the device afterwards, and what happened
meanwhile. -/
structure Answer (σ α : Type) where
  value : α
  next : σ
  effects : List Effect

namespace Answer
variable {σ α β : Type}

def pure (next : σ) (value : α) : Answer σ α := ⟨value, next, []⟩

def bind (a : Answer σ α) (f : σ → α → Answer σ β) : Answer σ β :=
  let b := f a.next a.value
  ⟨b.value, b.next, a.effects ++ b.effects⟩

def events (a : Answer σ α) : List Event := a.effects.map .effect

@[simp] theorem pure_bind (next : σ) (value : α) (f : σ → α → Answer σ β) :
    (pure next value).bind f = f next value := by simp [pure, bind]

end Answer
end Liveness
