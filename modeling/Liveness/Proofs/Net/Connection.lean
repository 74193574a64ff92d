import Liveness.Net.Connection
import Mathlib.Tactic.Tauto

/-! What the operations of a connection leave on the wire, and how each of them can fail. -/
namespace Liveness

/-- A wait on the peer that ran out, or a stream that failed. -/
def ProbeError.isStream : ProbeError → Bool
  | .timeout .. | .io .. => true
  | _ => false

namespace Net.Connection
variable {address : SocketAddress} {secure : Bool} {host : String} {transport : Transport}
  {peer : Peer} {c : Connection} {bytes : List UInt8} {event : WireEvent} {e : ProbeError}

theorem open_of_tlsFault? {fault : TlsFault} (h : tlsFault? secure host transport = some fault) :
    «open» address secure host transport peer = ⟨.error (.tls fault), []⟩ := by
  rw [«open», h]

theorem mem_wire_open (h : event ∈ («open» address secure host transport peer).wire) :
    event = .dialled address ∨ event = .connected ∨ event = .stalled ∨ event = .released ∨
      secure = true ∧ event = .secured := by
  unfold «open» at h
  split at h
  · nomatch h
  split at h
  · simp only [List.mem_singleton] at h
    exact .inl h
  · simp only [List.mem_cons, List.not_mem_nil, or_false] at h
    tauto
  · cases secure with
    | false =>
      simp only [Bool.not_false, if_true, List.mem_cons, List.not_mem_nil, or_false] at h
      tauto
    | true =>
      rw [if_neg (by decide)] at h
      split at h <;> simp only [List.mem_cons, List.not_mem_nil, or_false] at h <;> tauto

theorem open_eq_ok (h : («open» address secure host transport peer).result = .ok c) :
    c = ⟨address, secure, transport.timeout, some (.new peer)⟩ ∧
      («open» address secure host transport peer).wire =
        .dialled address :: .connected :: if secure then [.secured] else [] := by
  unfold «open» at h ⊢
  split at h
  · nomatch h
  split at h
  · nomatch h
  · nomatch h
  · cases secure with
    | false => exact ⟨(Except.ok.inj h).symm, rfl⟩
    | true =>
      rw [if_neg (by decide)] at h ⊢
      split at h
      · exact ⟨(Except.ok.inj h).symm, rfl⟩
      · nomatch h
      · nomatch h

theorem open_eq_error (h : («open» address secure host transport peer).result = .error e) :
    (∃ fault, tlsFault? secure host transport = some fault ∧ e = .tls fault) ∨
      (∃ fault, e = .connect address fault) ∨ (∃ reason, e = .tls (.handshake address reason)) ∨
      e.isStream := by
  unfold «open» at h
  split at h
  next fault hfault => exact .inl ⟨fault, hfault, (Except.error.inj h).symm⟩
  split at h
  next fault _ => exact .inr (.inl ⟨fault, (Except.error.inj h).symm⟩)
  · exact .inr (.inr (.inr (Except.error.inj h ▸ rfl)))
  · cases secure with
    | false => nomatch h
    | true =>
      rw [if_neg (by decide)] at h
      split at h
      · nomatch h
      next reason _ => exact .inr (.inr (.inl ⟨reason, (Except.error.inj h).symm⟩))
      · exact .inr (.inr (.inr (Except.error.inj h ▸ rfl)))

theorem mem_wire_write (h : event ∈ (c.write bytes).wire) :
    event = .stalled ∨ ∃ taken, taken <+: bytes ∧ event = .sent taken := by
  have hpart (room : Nat) : bytes.take room <+: bytes := List.take_prefix _ _
  have hwhole : bytes <+: bytes := List.prefix_refl _
  unfold write at h
  split at h
  · nomatch h
  split at h
  · nomatch h
  dsimp only at h
  split at h
  · exact .inr ⟨bytes, hwhole, by simpa using h⟩
  · split at h
    · exact .inr ⟨bytes, hwhole, by simpa using h⟩
    · exact .inr ⟨_, hpart _, by simpa using h⟩
  · split at h
    · exact .inr ⟨bytes, hwhole, by simpa using h⟩
    · rw [List.mem_cons, List.mem_singleton] at h
      exact h.symm.imp_right fun hsent => ⟨_, hpart _, hsent⟩

theorem write_eq_error (h : (c.write bytes).result = .error e) : e.isStream := by
  unfold write at h
  split at h
  · exact Except.error.inj h ▸ rfl
  split at h
  · exact Except.error.inj h ▸ rfl
  dsimp only at h
  split at h
  · nomatch h
  all_goals
    split at h
    · nomatch h
    · exact Except.error.inj h ▸ rfl

theorem mem_wire_readLine (h : event ∈ c.readLine.wire) : event = .awaited ∨ event = .stalled := by
  unfold readLine at h
  split at h
  · nomatch h
  dsimp only at h
  split at h
  · simpa using h
  split at h
  · exact .inl (by simpa using h)
  split at h <;> simp_all

theorem readLine_eq_error (h : c.readLine.result = .error e) : e.isStream := by
  unfold readLine at h
  split at h
  · exact Except.error.inj h ▸ rfl
  dsimp only at h
  split at h
  · exact Except.error.inj h ▸ rfl
  split at h
  · nomatch h
  split at h
  · nomatch h
  · exact Except.error.inj h ▸ rfl
  · exact Except.error.inj h ▸ rfl

theorem mem_wire_close (h : event ∈ c.close.wire) : event = .stalled ∨ event = .released := by
  unfold close at h
  split at h
  · nomatch h
  split at h <;> simp_all

end Net.Connection
end Liveness
