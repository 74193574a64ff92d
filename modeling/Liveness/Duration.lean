/-! Lengths of time. -/
namespace Liveness

structure Duration where
  nanos : Nat
deriving DecidableEq, Repr

namespace Duration

def zero : Duration := ⟨0⟩

def ofMillis (n : Nat) : Duration := ⟨n * 1000000⟩

def ofSecs (n : Nat) : Duration := ⟨n * 1000000000⟩

def millis (d : Duration) : Nat := d.nanos / 1000000

def secs (d : Duration) : Nat := d.nanos / 1000000000

def isZero (d : Duration) : Bool := d.nanos == 0

/-- The longest wait: thirty years of 365 days. -/
def longestWait : Duration := ofSecs (30 * 365 * 86400)

/-- How long a wait lasts that is meant to last `d`. -/
def asWait (d : Duration) : Duration := if longestWait.nanos < d.nanos then longestWait else d

@[simp] theorem millis_ofMillis (n : Nat) : (ofMillis n).millis = n := by
  simp [millis, ofMillis]

@[simp] theorem secs_ofSecs (n : Nat) : (ofSecs n).secs = n := by
  simp [secs, ofSecs]

@[simp] theorem isZero_ofSecs {n : Nat} : (ofSecs n).isZero = (n == 0) := by
  rw [Bool.eq_iff_iff]
  simp only [isZero, ofSecs, beq_iff_eq]
  omega

theorem asWait_le (d : Duration) : d.asWait.nanos ≤ longestWait.nanos := by
  unfold asWait
  split <;> omega

end Duration
end Liveness
