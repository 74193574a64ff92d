import Liveness.Link.NetworkManager
import Mathlib.Data.List.TakeDrop
import Mathlib.Data.List.TakeWhile

/-! Which device a listing names: the one of its first Wi-Fi line. -/
namespace Liveness
open Text

namespace Text
variable {sep : Char} {s before after : List Char}

theorem bne_of_mem_reverse (h : sep ∉ s) : ∀ c ∈ s.reverse, (c != sep) = true := by
  intro c hc
  rw [bne_iff_ne]
  rintro rfl
  exact h (List.mem_reverse.1 hc)

theorem cutLast?_append (h : sep ∉ after) :
    cutLast? sep (before ++ sep :: after) = some (before, after) := by
  have hreverse : (before ++ sep :: after).reverse = after.reverse ++ sep :: before.reverse := by
    rw [List.reverse_append, List.reverse_cons, List.append_assoc, List.singleton_append]
  have hne := bne_of_mem_reverse h
  rw [cutLast?, hreverse, List.span_eq_takeWhile_dropWhile, List.takeWhile_append_of_pos hne,
    List.dropWhile_append_of_pos hne]
  simp

/-- A cut at the last separator loses nothing, and the second part does not hold it. -/
theorem cutLast?_eq_some_iff :
    cutLast? sep s = some (before, after) ↔ s = before ++ sep :: after ∧ sep ∉ after := by
  constructor
  · intro h
    have hmem : sep ∈ s := by
      by_contra hnot
      have hnone : s.reverse.dropWhile (· != sep) = [] :=
        List.dropWhile_eq_nil_iff.2 (bne_of_mem_reverse hnot)
      rw [cutLast?, List.span_eq_takeWhile_dropWhile, hnone] at h
      nomatch h
    -- The last separator is the first one from behind.
    obtain ⟨front, back, hsplit, hfront⟩ := List.eq_append_cons_of_mem (List.mem_reverse.2 hmem)
    have hs : s = back.reverse ++ sep :: front.reverse := by
      rw [← List.reverse_reverse s, hsplit, List.reverse_append, List.reverse_cons,
        List.append_assoc, List.singleton_append]
    have hback : sep ∉ front.reverse := fun hc => hfront (List.mem_reverse.1 hc)
    rw [hs, cutLast?_append hback] at h
    obtain ⟨rfl, rfl⟩ := Prod.mk.inj (Option.some.inj h)
    exact ⟨hs, hback⟩
  · rintro ⟨rfl, hafter⟩
    exact cutLast?_append hafter

end Text

namespace NetworkManager

/-- A line of a listing that names a Wi-Fi device: its type stands behind the last colon. -/
def IsWifiLine (line device : List Char) : Prop :=
  ∃ kind, line = device ++ ':' :: kind ∧ ':' ∉ kind ∧ dropAround isBlank kind = "wifi".toList

/-- The device of the first such line. -/
def FirstWifi (listing device : String) : Prop :=
  ∃ before line later, splitAt (· == '\n') listing.toList = before ++ line :: later ∧
    IsWifiLine line device.toList ∧ ∀ other ∈ before, ∀ d, ¬ IsWifiLine other d

def wifiDevice? (line : List Char) : Option String :=
  match cutLast? ':' line with
  | some (device, kind) =>
    if dropAround isBlank kind = "wifi".toList then some (String.ofList device) else none
  | none => none

theorem wifiDevice?_eq_some_iff {line : List Char} {device : String} :
    wifiDevice? line = some device ↔ IsWifiLine line device.toList := by
  unfold wifiDevice? IsWifiLine
  constructor
  · intro h
    split at h
    next name kind hcut =>
      obtain ⟨hline, hkind⟩ := cutLast?_eq_some_iff.1 hcut
      obtain ⟨hwifi, hdevice⟩ := Option.ite_none_right_eq_some.1 h
      refine ⟨kind, ?_, hkind, hwifi⟩
      rw [← Option.some.inj hdevice, String.toList_ofList]
      exact hline
    · nomatch h
  · rintro ⟨kind, hline, hkind, hwifi⟩
    rw [cutLast?_eq_some_iff.2 ⟨hline, hkind⟩]
    dsimp only
    rw [if_pos hwifi, String.ofList_toList]

theorem wifiDevice?_eq_none_iff {line : List Char} :
    wifiDevice? line = none ↔ ∀ d, ¬ IsWifiLine line d := by
  rw [Option.eq_none_iff_forall_ne_some]
  constructor
  · intro h d hline
    apply h (String.ofList d)
    rw [wifiDevice?_eq_some_iff, String.toList_ofList]
    exact hline
  · intro h device hdevice
    exact h _ (wifiDevice?_eq_some_iff.1 hdevice)

theorem firstWifiDevice?_eq_some_iff {listing device : String} :
    firstWifiDevice? listing = some device ↔ FirstWifi listing device := by
  have hlines : firstWifiDevice? listing =
      (splitAt (· == '\n') listing.toList).findSome? wifiDevice? := rfl
  rw [hlines, List.findSome?_eq_some_iff]
  simp only [wifiDevice?_eq_some_iff, wifiDevice?_eq_none_iff, FirstWifi]

end NetworkManager
end Liveness
