import Liveness.Net.Host
import Liveness.Proofs.Endpoint.WellFormed

/-! Which hosts of URLs a TLS handshake can name. The alphabet of hosts and the grammar of server
names are two acceptors: what the second asks for beyond the first is how dots and hyphens stand, how
long the parts are, and that the last of them is no number. -/
namespace Liveness

theorem Text.of_mem_splitAt {α : Type} {p : α → Bool} {s piece : List α} {c : α}
    (hpiece : piece ∈ splitAt p s) (hc : c ∈ piece) : c ∈ s ∧ p c = false := by
  induction s generalizing piece with
  | nil =>
    rw [splitAt, List.mem_singleton] at hpiece
    subst hpiece
    cases hc
  | cons d s ih =>
    rw [splitAt] at hpiece
    have hlater {piece : List α} (hpiece : piece ∈ splitAt p s) (hc : c ∈ piece) :
        c ∈ d :: s ∧ p c = false := by
      obtain ⟨hmem, hnot⟩ := ih hpiece hc
      exact ⟨List.mem_cons_of_mem d hmem, hnot⟩
    by_cases hd : p d = true
    · rw [if_pos hd, List.mem_cons] at hpiece
      obtain rfl | hpiece := hpiece
      · cases hc
      · exact hlater hpiece hc
    · rw [if_neg hd] at hpiece
      cases hs : splitAt p s with
      | nil =>
        rw [hs, List.mem_singleton] at hpiece
        rw [hpiece, List.mem_singleton] at hc
        subst hc
        exact ⟨List.mem_cons_self, by simpa using hd⟩
      | cons first pieces =>
        rw [hs] at hpiece hlater
        obtain rfl | hpiece := List.mem_cons.1 hpiece
        · obtain rfl | hc := List.mem_cons.1 hc
          · exact ⟨List.mem_cons_self, by simpa using hd⟩
          · exact hlater List.mem_cons_self hc
        · exact hlater (List.mem_cons_of_mem first hpiece) hc

namespace Net
open Text

/-- The parts of a host between its dots; a last dot ends the last of them. -/
def labels (host : List Char) : List (List Char) :=
  splitAt (· == '.') (if host.getLast? = some '.' then host.dropLast else host)

/-- What a host must meet to be a domain name, its characters apart. -/
structure Nameable (host : List Char) : Prop where
  short : host.length ≤ 253
  sized : ∀ label ∈ labels host, 0 < label.length ∧ label.length ≤ 63
  unhyphened : ∀ label ∈ labels host, label.head? ≠ some '-' ∧ label.getLast? ≠ some '-'
  lettered : ∃ c ∈ (labels host).getLast?.getD [], c.isDigit = false

variable {host : List Char}

theorem mem_of_mem_label {label : List Char} {c : Char} (hlabel : label ∈ labels host)
    (hc : c ∈ label) : c ∈ host ∧ c ≠ '.' := by
  obtain ⟨hmem, hdot⟩ := of_mem_splitAt hlabel hc
  have hne : c ≠ '.' := by simpa using hdot
  split_ifs at hmem
  · exact ⟨List.dropLast_subset host hmem, hne⟩
  · exact ⟨hmem, hne⟩

/-- The parts of a host hold nothing but what labels may hold. -/
theorem isLabelChar_of_mem {label : List Char} (hhost : ∀ c ∈ host, Endpoint.isHostChar c)
    (hlabel : label ∈ labels host) :
    label.all (fun c => c.isAlphanum || c == '-' || c == '_') = true := by
  rw [List.all_eq_true]
  intro c hc
  obtain ⟨hmem, hne⟩ := mem_of_mem_label hlabel hc
  have hchar := hhost c hmem
  simp only [Endpoint.isHostChar, Bool.or_eq_true, beq_iff_eq, hne, or_false] at hchar ⊢
  exact hchar

theorem isDnsName_iff (hhost : ∀ c ∈ host, Endpoint.isHostChar c) :
    isDnsName host = true ↔ Nameable host := by
  have hlabel (label) (hmem : label ∈ labels host) : isLabel label = true ↔
      (0 < label.length ∧ label.length ≤ 63) ∧
        label.head? ≠ some '-' ∧ label.getLast? ≠ some '-' := by
    simp only [isLabel, isLabelChar_of_mem hhost hmem, Bool.and_eq_true, decide_eq_true_eq,
      bne_iff_ne, and_true, and_assoc]
  have hall : (labels host).all isLabel = true ↔ ∀ label ∈ labels host,
      (0 < label.length ∧ label.length ≤ 63) ∧
        label.head? ≠ some '-' ∧ label.getLast? ≠ some '-' := by
    rw [List.all_eq_true]
    exact forall₂_congr hlabel
  have hdigits : ((labels host).getLast?.getD []).all Char.isDigit = false ↔
      ∃ c ∈ (labels host).getLast?.getD [], c.isDigit = false := by
    simp
  have hunfold : isDnsName host = (decide (host.length ≤ 253) && (labels host).all isLabel &&
      !((labels host).getLast?.getD []).all Char.isDigit) := rfl
  rw [hunfold, Bool.and_eq_true, Bool.and_eq_true, decide_eq_true_eq, Bool.not_eq_true', hall,
    hdigits]
  constructor
  · rintro ⟨⟨hshort, hlabels⟩, hlast⟩
    exact ⟨hshort, fun label hmem => (hlabels label hmem).1, fun label hmem => (hlabels label hmem).2,
      hlast⟩
  · rintro ⟨hshort, hsized, hunhyphened, hlast⟩
    exact ⟨⟨hshort, fun label hmem => ⟨hsized label hmem, hunhyphened label hmem⟩⟩, hlast⟩

/-- Groups of a version 6 address stand between colons: without one there are two at most. -/
theorem readColons?_eq_none (h : ':' ∉ host) : readColons? host = none := by
  have hcut : cut? "::".toList host = none := by
    rw [Option.eq_none_iff_forall_ne_some]
    rintro ⟨before, after⟩ hsome
    rw [eq_of_cut?_eq_some hsome] at h
    simp at h
  have hsplit : splitAt (· == ':') host = [host] := by
    apply splitAt_of_all_not
    intro c hc
    have hne : c ≠ ':' := fun heq => h (heq ▸ hc)
    simpa using hne
  have hfew (groups : List UInt16) (hgroups : readCompressed? host = some groups) :
      groups.length ≤ 2 := by
    simp only [readCompressed?, hcut, readGroups?, hsplit] at hgroups
    split_ifs at hgroups
    · obtain rfl := Option.some.inj hgroups
      exact Nat.zero_le 2
    · split at hgroups
      · obtain ⟨none', hnone, rfl⟩ := Option.map_eq_some_iff.1 hgroups
        obtain rfl : none' = [] := by simpa using hnone.symm
        exact Nat.le_refl 2
      · have hone : ∃ group, readGroup? host = some group ∧ [group] = groups := by
          simpa [Option.bind_eq_some_iff] using hgroups
        obtain ⟨group, -, rfl⟩ := hone
        exact Nat.le_succ 1
  unfold readColons?
  cases hgroups : readCompressed? host with
  | none => rfl
  | some groups =>
    have hsize : ¬ groups.toArray.size = 8 := by
      have hle := hfew groups hgroups
      rw [List.size_toArray]
      omega
    exact dif_neg hsize

theorem not_isHostChar_colon : Endpoint.isHostChar ':' = false := by decide

/-- A host over the alphabet of URLs can be named if it is a dotted quad or has the form of a domain
name. -/
theorem isServerName_iff {host : String} (hhost : ∀ c ∈ host.toList, Endpoint.isHostChar c) :
    isServerName host = true ↔ (readDotted? host.toList).isSome ∨ Nameable host.toList := by
  have hcolon : ':' ∉ host.toList := by
    intro hmem
    have hchar := hhost ':' hmem
    rw [not_isHostChar_colon] at hchar
    exact absurd hchar Bool.false_ne_true
  have hliteral : (Ip.ofText? host.toList).isSome = (readDotted? host.toList).isSome := by
    unfold Ip.ofText?
    cases hdotted : readDotted? host.toList with
    | none => simp only [readColons?_eq_none hcolon, Option.isSome_none]
    | some word => rfl
  rw [isServerName, hliteral, Bool.or_eq_true, isDnsName_iff hhost]

end Net
end Liveness
