/-! Numeric link statuses, the one language that all radios report in. -/
namespace Liveness.Link

/-- Not connected, nothing in progress yet. -/
def down : Int := 0
def joining : Int := 1
/-- Joined, waiting for an address. -/
def noAddress : Int := 2
def up : Int := 3
def failed : Int := -1
/-- Network not found or interface unavailable. -/
def noNetwork : Int := -2
def badSecret : Int := -3

/-- An attempt has ended once its status is terminal. -/
def isTerminal (status : Int) : Bool := status < 0 || up ≤ status

def label (status : Int) : String :=
  if status = down then "down"
  else if status = joining then "joining"
  else if status = noAddress then "no_ip"
  else if status = up then "up"
  else if status = failed then "fail"
  else if status = noNetwork then "no_network"
  else if status = badSecret then "bad_auth"
  else "unknown"

/-- Exactly the statuses of progress are not terminal. -/
theorem isTerminal_eq_false {status : Int} :
    isTerminal status = false ↔ status = down ∨ status = joining ∨ status = noAddress := by
  simp only [isTerminal, Bool.or_eq_false_iff, decide_eq_false_iff_not]
  simp only [down, joining, noAddress, up]
  omega

end Liveness.Link
